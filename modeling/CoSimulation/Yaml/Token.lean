import CoSimulation.Yaml.Scalar

/-!
# YAML tokens

The tokens of a text are its scalars and marks, together with marks that do not
stand in the text: where a block collection begins, where it ends, and where a key
begins whose colon comes only later.
-/

namespace CoSimulation.Yaml

inductive Token where
  | version (major minor : Nat)
  | handle (name start : String)
  | documentStart
  | documentEnd
  | blockSequence
  | blockMapping
  | blockEnd
  | flowSequence
  | flowSequenceEnd
  | flowMapping
  | flowMappingEnd
  | blockEntry
  | flowEntry
  | key
  | value
  | alias (name : String)
  | anchor (name : String)
  /-- Every character of a suffix stands for one octet. -/
  | tag (handle suffix : String)
  | scalar (style : Style) (text : String)
deriving DecidableEq

/-- A place where a key may begin. -/
structure KeyPlace where
  /-- How many tokens come before. -/
  position : Nat
  index : Nat
  line : Nat
  column : Nat
  /-- Whether something else than a key would be wrong there. -/
  required : Bool

/-- A text that is being cut into tokens. -/
structure Lexer where
  cursor : Cursor
  /-- The tokens found so far, latest first. -/
  tokens : List Token
  /-- How many tokens were found so far. -/
  count : Nat
  /-- Where a key may begin: in the innermost brackets, in those around them, and so
  on; the last one is outside of all brackets. -/
  keys : List (Option KeyPlace)
  /-- Whether a key may begin next. -/
  keyAllowed : Bool
  /-- The columns of the open block collections, innermost first. -/
  columns : List Nat

namespace Lexer

def start (text : List Char) : Lexer :=
  { cursor := Cursor.start text, tokens := [], count := 0, keys := [none], keyAllowed := true
    columns := [] }

/-- Whether the next token lies inside brackets. -/
def inFlow (lexer : Lexer) : Bool := decide (1 < lexer.keys.length)

/-- The column right of the innermost block collection. -/
def margin (lexer : Lexer) : Nat :=
  match lexer.columns with
  | [] => 0
  | column :: _ => column + 1

def add (lexer : Lexer) (token : Token) : Lexer :=
  { lexer with tokens := token :: lexer.tokens, count := lexer.count + 1 }

/-- Puts a token behind the first tokens, `position` in number. -/
def insert (lexer : Lexer) (position : Nat) (token : Token) : Lexer :=
  let later := lexer.count - position
  { lexer with
    tokens := lexer.tokens.take later ++ token :: lexer.tokens.drop later
    count := lexer.count + 1 }

/-- Moves over marks on one line and adds a token for them. -/
def take (lexer : Lexer) (width : Nat) (token : Token) : Lexer :=
  ({ lexer with cursor := lexer.cursor.advance width }).add token

/-! ## Keys and block collections -/

/-- Gives up the innermost place of a key.  That is wrong if only a key could stand
there. -/
def dropKey? (lexer : Lexer) : Option Lexer :=
  match lexer.keys with
  | some place :: outer => if place.required then none else some { lexer with keys := none :: outer }
  | _ => some lexer

/-- Notes that a key may begin here. -/
def saveKey? (lexer : Lexer) : Option Lexer :=
  if lexer.keyAllowed then do
    let dropped ← lexer.dropKey?
    let place : KeyPlace :=
      { position := lexer.count
        index := lexer.cursor.index
        line := lexer.cursor.line
        column := lexer.cursor.column
        required := !lexer.inFlow && lexer.columns.head? == some lexer.cursor.column }
    return { dropped with keys := some place :: dropped.keys.tail }
  else some lexer

/-- How many octets a key can take up. -/
def keyLimit : Nat := 1024

/-- Gives up the places of keys that are too long or run over a line. -/
def dropStaleKeys? (lexer : Lexer) : Option Lexer := do
  let keys ← lexer.keys.mapM fun key =>
    match key with
    | none => some none
    | some place =>
        if place.line < lexer.cursor.line ∨ place.index + keyLimit < lexer.cursor.index then
          if place.required then none else some none
        else some (some place)
  return { lexer with keys := keys }

/-- Ends the block collections that lie right of a column; without a column all of
them.  Brackets hold them open. -/
def closeBlocks (lexer : Lexer) (column : Option Nat) : Lexer :=
  if lexer.inFlow then lexer
  else
    let closed := lexer.columns.takeWhile fun opened => column.all (fun here => decide (here < opened))
    closed.foldl (fun lexer _ => lexer.add .blockEnd)
      { lexer with columns := lexer.columns.drop closed.length }

/-- Begins a block collection at a column, if there is none as deep. -/
def openBlock (lexer : Lexer) (column position : Nat) (token : Token) : Lexer :=
  if lexer.inFlow || !(lexer.columns.head?.all (fun opened => decide (opened < column))) then lexer
  else { lexer with columns := column :: lexer.columns }.insert position token

/-- Begins a block collection here. -/
def openBlockHere (lexer : Lexer) (token : Token) : Lexer :=
  lexer.openBlock lexer.cursor.column lexer.count token

/-- Sets whether a key may begin next. -/
def allowKey (lexer : Lexer) (allowed : Bool) : Lexer := { lexer with keyAllowed := allowed }

/-! ## One token -/

/-- Moves over white space and comments.  A byte order mark may begin a line.  Tabs
are no indentation: where a block key may begin they stay. -/
def skipBlanks : Nat → Lexer → Lexer
  | 0, lexer => lexer
  | limit + 1, lexer =>
      let tabs := lexer.inFlow || !lexer.keyAllowed
      let start :=
        if lexer.cursor.column == 0 && lexer.cursor.isAt '\ufeff' then lexer.cursor.advance 1
        else lexer.cursor
      let blank := start.skipWhile (fun c => c == ' ' || (tabs && c == '\t'))
      let behind :=
        if blank.isAt '#' then blank.skipWhile (fun c => !isBreak c) else blank
      match behind.char? with
      | some c =>
          if isBreak c then
            skipBlanks limit
              { lexer with
                cursor := behind.breakLine
                keyAllowed := lexer.keyAllowed || !lexer.inFlow }
          else { lexer with cursor := behind }
      | none => { lexer with cursor := behind }

/-- A mark between documents ends everything that is open. -/
def documentMark? (lexer : Lexer) (token : Token) : Option Lexer := do
  let closed ← (lexer.closeBlocks none).dropKey?
  return (closed.allowKey false).take 3 token

/-- An opening bracket. -/
def openFlow? (lexer : Lexer) (token : Token) : Option Lexer := do
  let saved ← lexer.saveKey?
  return ({ saved with keys := none :: saved.keys, keyAllowed := true }).take 1 token

/-- A closing bracket. -/
def closeFlow? (lexer : Lexer) (token : Token) : Option Lexer := do
  let dropped ← lexer.dropKey?
  let keys := if dropped.inFlow then dropped.keys.tail else dropped.keys
  return ({ dropped with keys := keys, keyAllowed := false }).take 1 token

/-- A comma between brackets. -/
def flowEntry? (lexer : Lexer) : Option Lexer := do
  let dropped ← lexer.dropKey?
  return (dropped.allowKey true).take 1 .flowEntry

/-- A dash before an entry of a block. -/
def blockEntry? (lexer : Lexer) : Option Lexer := do
  if !lexer.inFlow && !lexer.keyAllowed then none
  let dropped ← (lexer.openBlockHere .blockSequence).dropKey?
  return (dropped.allowKey true).take 1 .blockEntry

/-- A question mark before a key. -/
def explicitKey? (lexer : Lexer) : Option Lexer := do
  if !lexer.inFlow && !lexer.keyAllowed then none
  let dropped ← (lexer.openBlockHere .blockMapping).dropKey?
  return (dropped.allowKey (!lexer.inFlow)).take 1 .key

/-- A colon before a value.  What began at the noted place was a key. -/
def value? (lexer : Lexer) : Option Lexer :=
  match lexer.keys with
  | some place :: outer =>
      let marked := { lexer with keys := none :: outer }.insert place.position .key
      some (((marked.openBlock place.column place.position .blockMapping).allowKey false).take 1
        .value)
  | _ =>
      if !lexer.inFlow && !lexer.keyAllowed then none
      else some (((lexer.openBlockHere .blockMapping).allowKey (!lexer.inFlow)).take 1 .value)

def isNameChar (c : Char) : Bool := c.isAlphanum || c == '_' || c == '-'

/-- An anchor or an alias. -/
def name? (lexer : Lexer) (token : String → Token) : Option Lexer := do
  let saved ← lexer.saveKey?
  let (name, behind) := (saved.cursor.advance 1).takeWhile isNameChar
  if name.isEmpty then none
  if endsWord behind.rest || behind.char?.any ("?:,]\x7d%@\x60".toList.contains ·) then
    return (({ saved with cursor := behind }).allowKey false).add (token (String.ofList name))
  else none

/-! ### Tags and directives -/

/-- The characters of a tag besides letters and digits. -/
def isTagChar (inBrackets : Bool) (c : Char) : Bool :=
  isNameChar c || ";/?:@&=+$.!~*'()".toList.contains c ||
    (inBrackets && (c == ',' || c == '[' || c == ']'))

/-- The octet that a percent sign and two digits write. -/
def writtenOctet? (cursor : Cursor) : Option Nat :=
  match cursor.rest with
  | '%' :: digits => hexValue? digits 2
  | _ => none

/-- How many octets follow the first one of an encoded character. -/
def furtherOctets? (first : Nat) : Option Nat :=
  if first < 0x80 then some 0
  else if first < 0xC0 then none
  else if first < 0xE0 then some 1
  else if first < 0xF0 then some 2
  else if first < 0xF8 then some 3
  else none

/-- Takes written octets that continue an encoded character. -/
def continuation? : Nat → Cursor → Option (List Char × Cursor)
  | 0, cursor => some ([], cursor)
  | count + 1, cursor => do
      let octet ← writtenOctet? cursor
      if octet < 0x80 || 0xC0 ≤ octet then none
      let (more, behind) ← continuation? count (cursor.advance 3)
      return (Char.ofNat octet :: more, behind)

/-- Takes the written octets of one encoded character. -/
def encoded? (cursor : Cursor) : Option (List Char × Cursor) := do
  let first ← writtenOctet? cursor
  let (more, behind) ← continuation? (← furtherOctets? first) (cursor.advance 3)
  return (Char.ofNat first :: more, behind)

/-- Takes the octets of a tag.  Those that are no characters of a tag are written. -/
def tagText? (inBrackets : Bool) : Nat → Cursor → Option (List Char × Cursor)
  | 0, _ => none
  | limit + 1, cursor =>
      match cursor.char? with
      | none => some ([], cursor)
      | some c =>
          if c = '%' then do
            let (octets, behind) ← encoded? cursor
            let (more, last) ← tagText? inBrackets limit behind
            return (octets ++ more, last)
          else if isTagChar inBrackets c then do
            let (more, last) ← tagText? inBrackets limit (cursor.advance 1)
            return (c :: more, last)
          else some ([], cursor)

/-- The text of a tag ends before an octet of zero. -/
def beforeZero (octets : List Char) : String := String.ofList (octets.takeWhile (· != '\x00'))

/-- Takes a tag: its handle, what follows the handle, and the text behind it. -/
def tagParts? (limit : Nat) (cursor : Cursor) : Option (String × String × Cursor) := do
  let inner := cursor.advance 1
  if inner.isAt '<' then
    let (name, behind) ← tagText? true limit (inner.advance 1)
    if name.isEmpty || !behind.isAt '>' then none
    return ("", beforeZero name, behind.advance 1)
  else
    let (word, behind) := inner.takeWhile isNameChar
    if behind.isAt '!' then
      let (suffix, last) ← tagText? false limit (behind.advance 1)
      if suffix.isEmpty then none
      return (String.ofList ('!' :: word ++ ['!']), beforeZero suffix, last)
    else
      let (more, last) ← tagText? false limit behind
      let suffix := beforeZero (word ++ more)
      return if suffix = "" then ("", "!", last) else ("!", suffix, last)

/-- A tag. -/
def tag? (lexer : Lexer) (limit : Nat) : Option Lexer := do
  let saved ← lexer.saveKey?
  let (handle, suffix, behind) ← tagParts? limit saved.cursor
  if endsWord behind.rest || (lexer.inFlow && behind.isAt ',') then
    return (({ saved with cursor := behind }).allowKey false).add (.tag handle suffix)
  else none

/-- A number of at most nine digits. -/
def versionNumber? (cursor : Cursor) : Option (Nat × Cursor) :=
  let (digits, behind) := cursor.takeWhile Char.isDigit
  if digits.isEmpty || decide (9 < digits.length) then none
  else some (digits.foldl (fun value c => 10 * value + (c.toNat - '0'.toNat)) 0, behind)

/-- The handle that a directive declares. -/
def declaredHandle? (cursor : Cursor) : Option (String × Cursor) :=
  if cursor.isAt '!' then
    let (word, behind) := (cursor.advance 1).takeWhile isNameChar
    if behind.isAt '!' then some (String.ofList ('!' :: word ++ ['!']), behind.advance 1)
    else if word.isEmpty then some ("!", behind)
    else none
  else none

/-- A directive: the version of the language, or what a handle of tags stands for. -/
def directive? (lexer : Lexer) (limit : Nat) : Option Lexer := do
  let closed ← (lexer.closeBlocks none).dropKey?
  let (name, behind) := (closed.cursor.advance 1).takeWhile isNameChar
  if !endsWord behind.rest then none
  let inner := behind.skipWhile isBlank
  let (token, last) ←
    if name = "YAML".toList then do
      let (major, point) ← versionNumber? inner
      if !point.isAt '.' then none
      let (minor, last) ← versionNumber? (point.advance 1)
      some (Token.version major minor, last)
    else if name = "TAG".toList then do
      let (handle, blank) ← declaredHandle? inner
      if !blank.char?.any isBlank then none
      let before := blank.skipWhile isBlank
      let (text, last) ← tagText? true limit before
      if text.isEmpty || !endsWord last.rest then none
      some (Token.handle handle (beforeZero text), last)
    else none
  return (({ closed with cursor := ← last.finishLine? }).allowKey false).add token

/-! ### Scalars -/

/-- A quoted scalar. -/
def quoted? (lexer : Lexer) (limit : Nat) (mark : Char) : Option Lexer := do
  let saved ← lexer.saveKey?
  let (text, behind) ← quotedScalar mark limit (saved.cursor.advance 1)
  return (({ saved with cursor := behind }).allowKey false).add
    (.scalar .other (String.ofList text))

/-- A block scalar. -/
def block? (lexer : Lexer) (limit : Nat) (folded : Bool) : Option Lexer := do
  let dropped ← lexer.dropKey?
  let (text, behind) ← blockScalar folded lexer.margin limit (dropped.cursor.advance 1)
  return (({ dropped with cursor := behind }).allowKey true).add
    (.scalar (if folded then .other else .literal) (String.ofList text))

/-- A plain scalar.  If it ends at a line break, a key may follow. -/
def plain? (lexer : Lexer) (limit : Nat) : Option Lexer := do
  let saved ← lexer.saveKey?
  let taken ← plainScalar lexer.inFlow lexer.margin limit {} saved.cursor
  return (({ saved with cursor := taken.cursor }).allowKey taken.onNewLine).add
    (.scalar .plain (String.ofList taken.text))

/-- Whether a plain scalar can begin with a character. -/
def beginsPlain (inFlow : Bool) (c : Char) (rest : List Char) : Bool :=
  if c == '-' then !(rest.head?.any isBlank)
  else if c == '?' || c == ':' then !inFlow && !endsWord rest
  else !(isBlankOrBreak c || ",[]\x7b\x7d#&*!|>'\"%@\x60".toList.contains c)

/-- Takes the next token; the cursor stands at its first character. -/
def token? (lexer : Lexer) (limit : Nat) (c : Char) (rest : List Char) : Option Lexer :=
  if lexer.cursor.column == 0 && c == '%' then lexer.directive? limit
  else if lexer.cursor.isAtMark '-' then lexer.documentMark? .documentStart
  else if lexer.cursor.isAtMark '.' then lexer.documentMark? .documentEnd
  else
    match c with
    | '[' => lexer.openFlow? .flowSequence
    | '\x7b' => lexer.openFlow? .flowMapping
    | ']' => lexer.closeFlow? .flowSequenceEnd
    | '\x7d' => lexer.closeFlow? .flowMappingEnd
    | ',' => lexer.flowEntry?
    | '*' => lexer.name? .alias
    | '&' => lexer.name? .anchor
    | '!' => lexer.tag? limit
    | '\'' => lexer.quoted? limit '\''
    | '"' => lexer.quoted? limit '"'
    | c =>
        if c == '-' && endsWord rest then lexer.blockEntry?
        else if c == '?' && (lexer.inFlow || endsWord rest) then lexer.explicitKey?
        else if c == ':' && (lexer.inFlow || endsWord rest) then lexer.value?
        else if c == '|' && !lexer.inFlow then lexer.block? limit false
        else if c == '>' && !lexer.inFlow then lexer.block? limit true
        else if beginsPlain lexer.inFlow c rest then lexer.plain? limit
        else none

/-- Takes tokens up to the end of the text.  Every token takes characters, so a limit
above the length of the text is never reached, neither here nor inside of a token. -/
def run : Nat → Lexer → Option (List Token)
  | 0, _ => none
  | limit + 1, lexer => do
      let skipped := skipBlanks (limit + 1) lexer
      let fresh ← skipped.dropStaleKeys?
      match fresh.cursor.rest with
      | [] =>
          let closed ← (fresh.closeBlocks none).dropKey?
          return closed.tokens.reverse
      | c :: rest =>
          let next ← (fresh.closeBlocks (some fresh.cursor.column)).token? (limit + 1) c rest
          run limit next

end Lexer

/-- The tokens of a text, if it can be cut into tokens. -/
def Token.ofText? (text : List Char) : Option (List Token) :=
  if text.all isAllowed then Lexer.run (text.length + 2) (Lexer.start text) else none

end CoSimulation.Yaml
