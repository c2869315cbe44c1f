/-!
# Places in a YAML text

A cursor is what is left of a text together with the place where it begins.  Lines
and columns carry meaning in YAML: columns show how deep a collection is nested,
and a key must end on the line on which it begins.
-/

namespace CoSimulation.Yaml

/-- What is left of a text, and where it begins. -/
structure Cursor where
  rest : List Char
  /-- How many octets lie before. -/
  index : Nat
  line : Nat
  column : Nat

def isBlank (c : Char) : Bool := c == ' ' || c == '\t'

/-- Line feed, carriage return, next line, line separator, paragraph separator. -/
def isBreak (c : Char) : Bool :=
  c == '\n' || c == '\r' || c == '\u0085' || c == '\u2028' || c == '\u2029'

def isBlankOrBreak (c : Char) : Bool := isBlank c || isBreak c

/-- Whether a blank, a break or the end of the text comes next. -/
def endsWord (text : List Char) : Bool := text.head?.all isBlankOrBreak

/-- Whether a break or the end of the text comes next. -/
def endsLine (text : List Char) : Bool := text.head?.all isBreak

/-- What a line break means inside a scalar: all breaks but the two separators are
line feeds. -/
def breakMeaning (c : Char) : Char :=
  if c == '\u2028' || c == '\u2029' then c else '\n'

/-- The characters that a text may contain. -/
def isAllowed (c : Char) : Bool :=
  c == '\t' || c == '\n' || c == '\r' || c == '\u0085' ||
    (decide (' ' ≤ c) && decide (c ≤ '~')) ||
    (decide ('\u00a0' ≤ c) && decide (c ≤ '\ufffd')) ||
    decide ('\uffff' < c)

namespace Cursor

def start (text : List Char) : Cursor := { rest := text, index := 0, line := 0, column := 0 }

def char? (cursor : Cursor) : Option Char := cursor.rest.head?

/-- Whether a character comes next. -/
def isAt (cursor : Cursor) (c : Char) : Bool := cursor.rest.head? == some c

/-- How many octets characters take up. -/
def octets (text : List Char) : Nat := text.foldl (fun total c => total + c.utf8Size) 0

/-- Moves over characters of one line. -/
def advance (cursor : Cursor) (count : Nat) : Cursor :=
  { cursor with
    rest := cursor.rest.drop count
    index := cursor.index + octets (cursor.rest.take count)
    column := cursor.column + count }

/-- Moves over one line break; a carriage return and the line feed behind it are one
break. -/
def breakLine (cursor : Cursor) : Cursor :=
  let width := match cursor.rest with
    | '\r' :: '\n' :: _ => 2
    | _ => 1
  { rest := cursor.rest.drop width
    index := cursor.index + octets (cursor.rest.take width)
    line := cursor.line + 1
    column := 0 }

/-- Moves over the characters of one line that satisfy a condition, and gives them. -/
def takeWhile (cursor : Cursor) (condition : Char → Bool) : List Char × Cursor :=
  let taken := cursor.rest.takeWhile condition
  (taken, cursor.advance taken.length)

def skipWhile (cursor : Cursor) (condition : Char → Bool) : Cursor :=
  (cursor.takeWhile condition).2

/-- Whether the three characters of a mark that stands alone begin a line here. -/
def isAtMark (cursor : Cursor) (mark : Char) : Bool :=
  cursor.column == 0 && cursor.rest.take 3 == [mark, mark, mark] &&
    endsWord (cursor.rest.drop 3)

/-- Whether a document begins or ends here. -/
def isAtDocumentMark (cursor : Cursor) : Bool := cursor.isAtMark '-' || cursor.isAtMark '.'

/-- Moves over blanks, a comment and the line break behind them.  Nothing else may
stand there. -/
def finishLine? (cursor : Cursor) : Option Cursor :=
  let cursor := cursor.skipWhile isBlank
  let cursor := if cursor.isAt '#' then cursor.skipWhile (fun c => !isBreak c) else cursor
  match cursor.char? with
  | none => some cursor
  | some c => if isBreak c then some cursor.breakLine else none

end Cursor

end CoSimulation.Yaml
