import CoSimulation.Yaml.Cursor

/-!
# Reading YAML: scalars

A scalar is written plainly, between quotation marks, or as a block of lines.  Plain
and quoted scalars may run over several lines; the white space at a line break is
folded into one blank, or into the line breaks behind the first.
-/

namespace CoSimulation.Yaml

/-- How a scalar is written, as far as it matters for its meaning. -/
inductive Style where
  | plain
  | literal
  | other
deriving DecidableEq

/-- White space between two parts of a scalar. -/
structure Gap where
  /-- The blanks before a line break, as long as there is none. -/
  blanks : List Char := []
  /-- Whether there was a line break. -/
  broken : Bool := false
  /-- The first line break. -/
  first : List Char := []
  /-- The line breaks behind it. -/
  further : List Char := []

namespace Gap

/-- What the white space stands for. -/
def meaning (gap : Gap) : List Char :=
  if !gap.broken then gap.blanks
  else if gap.first = ['\n'] then if gap.further.isEmpty then [' '] else gap.further
  else gap.first ++ gap.further

/-- The gap after one more blank. -/
def addBlank (gap : Gap) (c : Char) : Gap :=
  if gap.broken then gap else { gap with blanks := gap.blanks ++ [c] }

/-- The gap after one more line break. -/
def addBreak (gap : Gap) (c : Char) : Gap :=
  if gap.broken then { gap with further := gap.further ++ [breakMeaning c] }
  else { blanks := [], broken := true, first := [breakMeaning c], further := [] }

/-- Takes white space.  Behind a line break no tab may stand left of `margin`. -/
def take (margin : Nat) : Nat → Gap → Cursor → Option (Gap × Cursor)
  | 0, gap, cursor => some (gap, cursor)
  | limit + 1, gap, cursor =>
      match cursor.char? with
      | none => some (gap, cursor)
      | some c =>
          if isBlank c then
            if gap.broken && c == '\t' && decide (cursor.column < margin) then none
            else take margin limit (gap.addBlank c) (cursor.advance 1)
          else if isBreak c then take margin limit (gap.addBreak c) cursor.breakLine
          else some (gap, cursor)

end Gap

/-! ## Plain scalars -/

def isFlowMark (c : Char) : Bool :=
  c == ',' || c == '[' || c == ']' || c == '\x7b' || c == '\x7d'

/-- Takes the characters of a plain scalar up to white space or a mark that ends the
scalar.  Inside brackets a colon must not touch a bracket, a comma or a question
mark. -/
def plainWord (inFlow : Bool) : List Char → Option (List Char)
  | [] => some []
  | c :: rest =>
      if isBlankOrBreak c then some []
      else if inFlow && c == ':' && rest.head?.any (fun d => isFlowMark d || d == '?') then none
      else if c == ':' && endsWord rest then some []
      else if inFlow && isFlowMark c then some []
      else (plainWord inFlow rest).map (c :: ·)

/-- A scalar, the text behind it, and whether that begins on a new line. -/
structure Taken where
  text : List Char
  cursor : Cursor
  onNewLine : Bool

/-- Takes a plain scalar whose continuation lines are indented by at least
`margin`. -/
def plainScalar (inFlow : Bool) (margin : Nat) : Nat → Gap → Cursor → Option Taken
  | 0, _, _ => none
  | limit + 1, gap, cursor => do
      if cursor.isAtDocumentMark || cursor.isAt '#' then
        return { text := [], cursor := cursor, onNewLine := gap.broken }
      let word ← plainWord inFlow cursor.rest
      let text := if word.isEmpty then [] else gap.meaning ++ word
      let behind := cursor.advance word.length
      let before : Gap := if word.isEmpty then gap else {}
      if !(behind.char?.any isBlankOrBreak) then
        return { text := text, cursor := behind, onNewLine := before.broken }
      let (following, next) ← Gap.take margin (limit + 1) before behind
      if !inFlow && decide (next.column < margin) then
        return { text := text, cursor := next, onNewLine := following.broken }
      let more ← plainScalar inFlow margin limit following next
      return { more with text := text ++ more.text }

/-! ## Quoted scalars -/

/-- The value of a hexadecimal digit. -/
def hexDigit? (c : Char) : Option Nat :=
  if c.isDigit then some (c.toNat - '0'.toNat)
  else if 'a' ≤ c ∧ c ≤ 'f' then some (c.toNat - 'a'.toNat + 10)
  else if 'A' ≤ c ∧ c ≤ 'F' then some (c.toNat - 'A'.toNat + 10)
  else none

/-- The number that the first digits of a text write. -/
def hexValue? (text : List Char) (count : Nat) : Option Nat :=
  let digits := text.take count
  if digits.length < count then none
  else digits.foldlM (fun value c => (hexDigit? c).map (16 * value + ·)) 0

/-- The character of a code point, if there is one. -/
def charOf? (code : Nat) : Option Char :=
  if (0xD800 ≤ code ∧ code ≤ 0xDFFF) ∨ 0x10FFFF < code then none else some (Char.ofNat code)

/-- What an escape stands for, and how long it is; the text begins behind the
backslash. -/
def escape? : List Char → Option (Char × Nat)
  | [] => none
  | c :: rest =>
      match c with
      | '0' => some ('\x00', 1)
      | 'a' => some ('\x07', 1)
      | 'b' => some ('\x08', 1)
      | 't' => some ('\t', 1)
      | '\t' => some ('\t', 1)
      | 'n' => some ('\n', 1)
      | 'v' => some ('\x0b', 1)
      | 'f' => some ('\x0c', 1)
      | 'r' => some ('\r', 1)
      | 'e' => some ('\x1b', 1)
      | ' ' => some (' ', 1)
      | '"' => some ('"', 1)
      | '/' => some ('/', 1)
      | '\\' => some ('\\', 1)
      | 'N' => some ('\u0085', 1)
      | '_' => some ('\u00a0', 1)
      | 'L' => some ('\u2028', 1)
      | 'P' => some ('\u2029', 1)
      | 'x' => do some (← charOf? (← hexValue? rest 2), 3)
      | 'u' => do some (← charOf? (← hexValue? rest 4), 5)
      | 'U' => do some (← charOf? (← hexValue? rest 8), 9)
      | _ => none

/-- Takes the characters of a quoted scalar up to white space or the closing mark.
The flag tells whether they end in an escaped line break. -/
def quotedWord (mark : Char) : Nat → Cursor → Option (List Char × Bool × Cursor)
  | 0, _ => none
  | limit + 1, cursor => do
      match cursor.rest with
      | [] => return ([], false, cursor)
      | c :: rest =>
          let (taken, width) ←
            if isBlankOrBreak c then return ([], false, cursor)
            else if c = mark then
              if mark = '\'' ∧ rest.head? = some '\'' then some (c, 2)
              else return ([], false, cursor)
            else if mark = '"' ∧ c = '\\' then
              if rest.head?.any isBreak then return ([], true, (cursor.advance 1).breakLine)
              else (escape? rest).map (fun (meant, length) => (meant, length + 1))
            else some (c, 1)
          let (more, escaped, next) ← quotedWord mark limit (cursor.advance width)
          return (taken :: more, escaped, next)

/-- Takes a quoted scalar from behind its opening mark. -/
def quotedScalar (mark : Char) : Nat → Cursor → Option (List Char × Cursor)
  | 0, _ => none
  | limit + 1, cursor => do
      if cursor.isAtDocumentMark || cursor.rest.isEmpty then none
      let (word, escaped, behind) ← quotedWord mark (limit + 1) cursor
      if behind.isAt mark then return (word, behind.advance 1)
      let (gap, next) ← Gap.take 0 (limit + 1) { broken := escaped } behind
      let (more, last) ← quotedScalar mark limit next
      return (word ++ gap.meaning ++ more, last)

/-! ## Block scalars -/

/-- What becomes of the line breaks at the end of a block. -/
inductive Chomping where
  | strip
  | clip
  | keep

/-- The signs behind the mark of a block: what becomes of the last line breaks, and
how much deeper than its surroundings the block is indented. -/
def blockHeader? (cursor : Cursor) : Option (Chomping × Option Nat × Cursor) :=
  let chomping (cursor : Cursor) : Chomping × Cursor :=
    if cursor.isAt '+' then (.keep, cursor.advance 1)
    else if cursor.isAt '-' then (.strip, cursor.advance 1)
    else (.clip, cursor)
  let depth (cursor : Cursor) : Option (Option Nat × Cursor) :=
    match cursor.char? with
    | some c =>
        if c.isDigit then
          if c = '0' then none else some (some (c.toNat - '0'.toNat), cursor.advance 1)
        else some (none, cursor)
    | none => some (none, cursor)
  do
    if cursor.isAt '+' || cursor.isAt '-' then
      let (ending, behind) := chomping cursor
      let (increment, next) ← depth behind
      return (ending, increment, ← next.finishLine?)
    else
      let (increment, behind) ← depth cursor
      let (ending, next) := chomping behind
      return (ending, increment, ← next.finishLine?)

/-- Takes the empty lines of a block and the indentation of the line behind them.  An
indentation of zero is still to be found: it is that of the deepest line so far, at
least `least`. -/
def blockBreaks (least : Nat) :
    Nat → Nat → Nat → Cursor → Option (Nat × List Char × Cursor)
  | 0, _, _, _ => none
  | limit + 1, indent, deepest, cursor =>
      let spaces := (cursor.rest.takeWhile (· == ' ')).length
      let width := if indent = 0 then spaces else Nat.min spaces (indent - cursor.column)
      let inside := cursor.advance width
      let deepest := Nat.max deepest inside.column
      if (indent == 0 || decide (inside.column < indent)) && inside.isAt '\t' then none
      else
        match inside.char?.filter isBreak with
        | some c =>
            (blockBreaks least limit indent deepest inside.breakLine).map
              fun (found, breaks, last) => (found, breakMeaning c :: breaks, last)
        | none => some (if indent = 0 then Nat.max deepest least else indent, [], inside)

/-- What lies between the line of a block that was taken last and the next one. -/
structure LineEnd where
  /-- The break that ends the last line. -/
  ending : List Char
  /-- The empty lines behind it. -/
  empty : List Char
  /-- Whether the last line begins with a blank. -/
  indented : Bool

/-- What stands between the last line and the next one.  If the block is folded, a
single break between lines that begin with text is a blank. -/
def LineEnd.separator (last : LineEnd) (folded nextIndented : Bool) : List Char :=
  let between :=
    if folded && last.ending == ['\n'] && !last.indented && !nextIndented then
      if last.empty.isEmpty then [' '] else []
    else last.ending
  between ++ last.empty

/-- Takes the lines of a block with an indentation, and gives what follows the last of
them. -/
def blockLines (folded : Bool) (indent : Nat) :
    Nat → LineEnd → Cursor → Option (List Char × LineEnd × Cursor)
  | 0, _, _ => none
  | limit + 1, previous, cursor => do
      match cursor.char? with
      | none => return ([], previous, cursor)
      | some c =>
          if cursor.column ≠ indent then return ([], previous, cursor)
          else
            let (line, behind) := cursor.takeWhile (fun c => !isBreak c)
            let ending := (behind.char?.map breakMeaning).toList
            let next := if behind.rest.isEmpty then behind else behind.breakLine
            let (_, empty, start) ← blockBreaks indent (limit + 1) indent 0 next
            let (more, final, last) ←
              blockLines folded indent limit
                { ending := ending, empty := empty, indented := isBlank c } start
            return (previous.separator folded (isBlank c) ++ line ++ more, final, last)

/-- Takes a block scalar from behind its mark.  `margin` is the least indentation of
its surroundings plus one. -/
def blockScalar (folded : Bool) (margin limit : Nat) (cursor : Cursor) :
    Option (List Char × Cursor) := do
  let (chomping, increment, behind) ← blockHeader? cursor
  let given := (increment.map (margin - 1 + ·)).getD 0
  let (indent, empty, first) ← blockBreaks (Nat.max margin 1) limit given 0 behind
  let (text, final, last) ←
    blockLines folded indent limit { ending := [], empty := empty, indented := false } first
  let kept := match chomping with
    | .strip => []
    | .clip => final.ending
    | .keep => final.ending ++ final.empty
  return (text ++ kept, last)

end CoSimulation.Yaml
