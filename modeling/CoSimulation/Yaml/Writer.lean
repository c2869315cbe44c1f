import CoSimulation.Decimal.Format
import CoSimulation.Document
import CoSimulation.Yaml.Cursor
import CoSimulation.Yaml.Meaning

/-!
# Writing YAML

Documents as YAML blocks.  Each level is indented by two blanks; the dashes of a list
stand in the column of the key before them.

Texts are written plainly where that reads back as the same text, else between single
quotation marks, and between double ones if they hold characters that must be escaped.
A text with line breaks is a literal block.
-/

namespace CoSimulation.Yaml.Writer

/-! ## How a text can be written -/

/-- Characters that need no escape. -/
def isPrintable (c : Char) : Bool :=
  c == '\n' || (decide (' ' ≤ c) && decide (c ≤ '~')) ||
    (decide ('\u00a0' ≤ c) && c != '\ufeff' && c != '\ufffe' && c != '\uffff')

/-- Whether somewhere in a text a character of the first kind stands before one of the
second kind. -/
def hasPair (first second : Char → Bool) (text : List Char) : Bool :=
  (text.zip (text.drop 1)).any (fun (left, right) => first left && second right)

def hasSpecial (text : List Char) : Bool := text.any (fun c => !isPrintable c)

/-- Whether a line ends in a blank. -/
def hasBlankBeforeBreak (text : List Char) : Bool := hasPair (· == ' ') isBreak text

/-- Whether white space at a line break would be lost in a folded text. -/
def breaksAtBlank (text : List Char) : Bool :=
  hasBlankBeforeBreak text || hasPair isBreak (· == ' ') text

/-- Whether white space at the ends of a text would be lost. -/
def hasLooseEnd (text : List Char) : Bool :=
  let isLoose := fun c => c == ' ' || isBreak c
  text.head?.any isLoose || text.getLast?.any isLoose

/-- Whether a plain text would begin with a mark. -/
def beginsWithMark : List Char → Bool
  | [] => false
  | c :: rest =>
      "#,[]\x7b\x7d&*!|>'\"%@\x60".toList.contains c ||
        ("?:-".toList.contains c && endsWord rest)

/-- Whether a plain text would end before a colon or a comment inside of it. -/
def containsMark (text : List Char) : Bool :=
  (text.drop 1).getLast? == some ':' ||
    hasPair (· == ':') isBlankOrBreak (text.drop 1) || hasPair isBlankOrBreak (· == '#') text

def beginsWithDocumentMark (text : List Char) : Bool :=
  let start := text.take 3
  start == ['-', '-', '-'] || start == ['.', '.', '.']

def allowsSingleQuotes (text : List Char) : Bool := !breaksAtBlank text && !hasSpecial text

def allowsPlain (text : List Char) : Bool :=
  allowsSingleQuotes text && !hasLooseEnd text && !text.any isBreak &&
    !beginsWithDocumentMark text && !beginsWithMark text && !containsMark text

def allowsBlock (text : List Char) : Bool :=
  !hasBlankBeforeBreak text && text.getLast? != some ' ' && !hasSpecial text

/-! ## The forms of a text -/

def blanks (count : Nat) : List Char := List.replicate count ' '

/-- The lines of a text behind its first character; a line behind a break is
indented. -/
def indented (indent : Nat) (write : Char → List Char) : Bool → List Char → List Char
  | _, [] => []
  | atStart, c :: rest =>
      if isBreak c then c :: indented indent write true rest
      else (if atStart then blanks indent else []) ++ write c ++ indented indent write false rest

/-- A text between single quotation marks; a mark inside is doubled and the first of
several line feeds too. -/
def singleQuoted (indent : Nat) (text : List Char) : List Char :=
  let double := fun c => if c = '\'' then ['\'', '\''] else [c]
  let closing := if text.getLast?.any isBreak then blanks indent else []
  '\'' :: indented indent double false text ++ closing ++ ['\'']

def hexDigits (width value : Nat) : List Char :=
  let digits := (Nat.toDigits 16 value).map Char.toUpper
  List.replicate (width - digits.length) '0' ++ digits

/-- A character inside double quotation marks. -/
def escaped (c : Char) : List Char :=
  match c with
  | '\x00' => ['\\', '0']
  | '\x07' => ['\\', 'a']
  | '\x08' => ['\\', 'b']
  | '\t' => ['\\', 't']
  | '\n' => ['\\', 'n']
  | '\x0b' => ['\\', 'v']
  | '\x0c' => ['\\', 'f']
  | '\r' => ['\\', 'r']
  | '\x1b' => ['\\', 'e']
  | '"' => ['\\', '"']
  | '\\' => ['\\', '\\']
  | '\u0085' => ['\\', 'N']
  | '\u2028' => ['\\', 'L']
  | '\u2029' => ['\\', 'P']
  | c =>
      if isPrintable c then [c]
      else if c.toNat ≤ 0xFF then '\\' :: 'x' :: hexDigits 2 c.toNat
      else if c.toNat ≤ 0xFFFF then '\\' :: 'u' :: hexDigits 4 c.toNat
      else '\\' :: 'U' :: hexDigits 8 c.toNat

def doubleQuoted (text : List Char) : List Char := '"' :: text.flatMap escaped ++ ['"']

/-- The signs behind the mark of a literal block. -/
def blockSigns (text : List Char) : List Char :=
  let depth := if text.head?.any (fun c => c == ' ' || isBreak c) then ['2'] else []
  let chomping := match text.reverse with
    | [] => ['-']
    | [last] => if isBreak last then ['+'] else ['-']
    | last :: before :: _ =>
        if !isBreak last then ['-'] else if isBreak before then ['+'] else []
  depth ++ chomping

/-- A text as a literal block; the last line break belongs to the text if it has
one. -/
def literal (indent : Nat) (text : List Char) : List Char :=
  '|' :: blockSigns text ++ '\n' :: indented indent (fun c => [c]) true text

/-- A text inside one line or, if it has line breaks, inside several that are indented.
The line break behind it is not written. -/
def text (indent : Nat) (value : String) : List Char :=
  let letters := value.toList
  if letters.contains '\n' then
    if allowsBlock letters then literal indent letters else doubleQuoted letters
  else if !Meaning.isAmbiguous value && allowsPlain letters then letters
  else if allowsSingleQuotes letters then singleQuoted indent letters
  else doubleQuoted letters

/-! ## Documents -/

/-- Ends the line behind a text, unless the text has ended it. -/
def closed (line : List Char) (value : String) : List Char :=
  let letters := value.toList
  if letters.contains '\n' && allowsBlock letters && letters.getLast?.any isBreak then line
  else line ++ ['\n']

def flag (value : Bool) : List Char := (if value then "true" else "false").toList

mutual

/-- What stands behind a key and its colon; the key stands in a column. -/
def behindKey (column : Nat) : Document → List Char
  | .absent => " null\n".toList
  | .flag value => ' ' :: flag value ++ ['\n']
  | .count value => ' ' :: Nat.toDigits 10 value ++ ['\n']
  | .real value => ' ' :: (NumberFormat.yaml.write value).toList ++ ['\n']
  | .text value => ' ' :: closed (text (column + 2) value) value
  | .list [] => " []\n".toList
  | .list items => '\n' :: blanks column ++ listItems column items
  | .record [] => " \x7b\x7d\n".toList
  | .record fields => '\n' :: blanks (column + 2) ++ recordFields (column + 2) fields

/-- What stands behind a dash and a blank; the dash stands in a column. -/
def behindDash (column : Nat) : Document → List Char
  | .absent => "null\n".toList
  | .flag value => flag value ++ ['\n']
  | .count value => Nat.toDigits 10 value ++ ['\n']
  | .real value => (NumberFormat.yaml.write value).toList ++ ['\n']
  | .text value => closed (text (column + 2) value) value
  | .list [] => "[]\n".toList
  | .list items => listItems (column + 2) items
  | .record [] => "\x7b\x7d\n".toList
  | .record fields => recordFields (column + 2) fields

/-- The items of a list, from the first dash on. -/
def listItems (column : Nat) : List Document → List Char
  | [] => []
  | [item] => '-' :: ' ' :: behindDash column item
  | item :: rest =>
      '-' :: ' ' :: behindDash column item ++ blanks column ++ listItems column rest

/-- The fields of a record, from the first key on. -/
def recordFields (column : Nat) : List (String × Document) → List Char
  | [] => []
  | [(name, value)] => text (column + 2) name ++ ':' :: behindKey column value
  | (name, value) :: rest =>
      text (column + 2) name ++ ':' :: behindKey column value ++ blanks column ++
        recordFields column rest

end

/-- A whole document. -/
def whole : Document → List Char
  | .record (field :: rest) => recordFields 0 (field :: rest)
  | .list (item :: rest) => listItems 0 (item :: rest)
  | .record [] => "\x7b\x7d\n".toList
  | .list [] => "[]\n".toList
  | .absent => "null\n".toList
  | .flag value => flag value ++ ['\n']
  | .count value => Nat.toDigits 10 value ++ ['\n']
  | .real value => (NumberFormat.yaml.write value).toList ++ ['\n']
  | .text value => closed (text 2 value) value

end CoSimulation.Yaml.Writer

namespace CoSimulation

/-- The document as YAML. -/
def Document.toYaml (document : Document) : String := String.ofList (Yaml.Writer.whole document)

end CoSimulation
