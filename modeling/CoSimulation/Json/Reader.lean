/-!
# Reading JSON: text and problems

A `Reader` takes a value off the front of a text.  It stops at the first problem,
and it tells what kind of problem that is: a text that ends too early, a text that
is not JSON, or JSON of the wrong shape.

This module holds the readers of punctuation and words, and `entries`, the loop
that lists and objects share.
-/

namespace CoSimulation.Json

inductive Problem where
  /-- The text ends too early. -/
  | truncated
  /-- The text is not JSON. -/
  | malformed
  /-- The value has the wrong shape or type. -/
  | mismatched
deriving DecidableEq, Repr

/-- Takes a value off the front of a text, which is the state.  The number that all
readers share bounds how often anything is repeated; it exceeds the length of the
whole text, so it is never reached. -/
abbrev Reader : Type → Type := ReaderT Nat (StateT (List Char) (Except Problem))

namespace Reader

variable {α σ : Type}

def refuse (problem : Problem) : Reader α := fun _ _ => .error problem

/-- The bound on repetitions. -/
def bound : Reader Nat := read

def isBlank (c : Char) : Bool := c == ' ' || c == '\n' || c == '\t' || c == '\r'

/-- The next character, which stays where it is. -/
def peek? : Reader (Option Char) := fun _ text => .ok (text.head?, text)

/-- The next character after blanks.  It stays where it is, the blanks do not. -/
def next? : Reader (Option Char) := fun _ text =>
  let rest := text.dropWhile isBlank
  .ok (rest.head?, rest)

/-- Takes one character. -/
def skip : Reader Unit := fun _ text => .ok ((), text.tail)

/-- Takes the characters of a word. -/
def word : List Char → Reader Unit
  | [] => pure ()
  | expected :: rest => fun bound text =>
      match text with
      | [] => .error .truncated
      | c :: more => if c = expected then word rest bound more else .error .malformed

/-- Takes a punctuation mark that may follow blanks. -/
def mark (expected : Char) : Reader Unit := do
  match ← next? with
  | none => refuse .truncated
  | some c => if c = expected then skip else refuse .malformed

/-- Takes entries up to and including the closing bracket; a comma stands between
two entries, and there is at least one.  `limit` bounds their number. -/
def moreEntries (closing : Char) (entry : σ → Reader σ) : Nat → σ → Reader σ
  | 0, _ => refuse .truncated
  | limit + 1, state => do
      let state ← entry state
      match ← next? with
      | none => refuse .truncated
      | some c =>
          if c = closing then do
            skip
            return state
          else if c = ',' then do
            skip
            moreEntries closing entry limit state
          else refuse .malformed

/-- Takes what stands between brackets, from behind the opening one. -/
def entries (closing : Char) (entry : σ → Reader σ) (state : σ) : Reader σ := do
  if (← next?) = some closing then
    skip
    return state
  else moreEntries closing entry (← bound) state

/-- Reads a whole text; only blanks may follow the value. -/
def read (reader : Reader α) (text : String) : Except Problem α := do
  let (value, rest) ← reader (text.toList.length + 1) text.toList
  match rest.dropWhile isBlank with
  | [] => return value
  | _ => throw .malformed

end Reader

end CoSimulation.Json
