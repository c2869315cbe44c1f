import CoSimulation.Yaml.Token

/-!
# YAML nodes

A document is a tree of scalars, sequences, mappings and references, which aliases
write.  Nothing at all, where a node is expected, is an empty plain scalar.

Anchors are numbered by how many different names were used before them, and an alias
has the number of the latest anchor of its name.  So an anchor that uses a name again
shares its number with those up to the next new name.  An alias stands for the last
node in the whole document whose anchor has its number.
-/

namespace CoSimulation.Yaml

inductive Node where
  | scalar (style : Style) (tag : Option String) (text : String)
  | sequence (items : List Node)
  | mapping (entries : List (Node × Node))
  | reference (number : Nat)

namespace Node

def empty : Node := scalar .plain none ""

instance : Inhabited Node := ⟨empty⟩

mutual

/-- How many marks a node consists of: one for a scalar or a reference, and one for
either end of a collection. -/
def size : Node → Nat
  | scalar _ _ _ => 1
  | reference _ => 1
  | sequence items => 2 + itemsSize items
  | mapping entries => 2 + entriesSize entries

def itemsSize : List Node → Nat
  | [] => 0
  | item :: rest => item.size + itemsSize rest

def entriesSize : List (Node × Node) → Nat
  | [] => 0
  | (key, value) :: rest => key.size + value.size + entriesSize rest

end

/-- Where nodes are taken from: the tokens that are left, the anchors so far, and what
the handles of tags stand for. -/
structure Source where
  tokens : List Token
  /-- The names of the anchors and the latest number of each. -/
  names : List (String × Nat)
  /-- The nodes marked by anchors under their numbers.  The one that began last comes
  first. -/
  marked : List (Nat × Node)
  handles : List (String × String)

/-- Takes nodes off a source. -/
abbrev Taker : Type → Type := StateT Source Option

def fail {α : Type} : Taker α := fun _ => none

/-- The next token, which stays where it is. -/
def peek? : Taker (Option Token) := do return (← get).tokens.head?

def skip : Taker Unit := modify fun source => { source with tokens := source.tokens.tail }

/-- Takes a token if it comes next, and tells whether it did. -/
def takes (token : Token) : Taker Bool := do
  if (← peek?) = some token then
    skip
    return true
  else return false

/-- Lets an anchor, if there is one, mark the node that `take` takes.  Aliases inside
of that node may have its number already. -/
def marking (anchor : Option String) (take : Taker Node) : Taker Node :=
  match anchor with
  | none => take
  | some name => do
      let earlier := (← get).marked.length
      let number := (← get).names.length
      modify fun source =>
        { source with
          names := (name, number) :: source.names.filter (fun known => known.1 ≠ name)
          marked := (number, empty) :: source.marked }
      let taken ← take
      modify fun source =>
        { source with
          marked := source.marked.set (source.marked.length - earlier - 1) (number, taken) }
      return taken

/-- The full text of a tag. -/
def resolve (handle suffix : String) : Taker String := do
  if handle = "" then return suffix
  match (← get).handles.lookup handle with
  | some start => return start ++ suffix
  | none => fail

/-- Takes the anchor and the tag in front of a node, in either order. -/
def properties : Nat → Option String → Option String → Taker (Option String × Option String)
  | 0, anchor, tag => return (anchor, tag)
  | limit + 1, anchor, tag => do
      match ← peek? with
      | some (.anchor name) =>
          if anchor.isSome then return (anchor, tag)
          skip
          properties limit (some name) tag
      | some (.tag handle suffix) =>
          if tag.isSome then return (anchor, tag)
          skip
          properties limit anchor (some (← resolve handle suffix))
      | _ => return (anchor, tag)

/-- Whether a node is missing: one of the tokens comes next. -/
def isMissing (ends : List Token) : Taker Bool := do
  return (← peek?).any (fun token => ends.contains token)

mutual

/-- Takes a node.  Outside of brackets it may be a block collection, and the value of
a key may be a sequence that is not indented. -/
def node : Nat → Bool → Bool → Taker Node
  | 0, _, _ => fail
  | limit + 1, inBlock, unindented => do
      match ← peek? with
      | some (.alias name) =>
          skip
          match (← get).names.lookup name with
          | some number => return reference number
          | none => fail
      | _ =>
          let (anchor, tag) ← properties 2 none none
          marking anchor (content limit inBlock unindented (anchor.isSome || tag.isSome) tag)
termination_by limit => (limit, 0)

/-- Takes what follows the anchor and the tag of a node.  The tag `!` means nothing on
a scalar that is written. -/
def content (limit : Nat) (inBlock unindented hasProperties : Bool) (tag : Option String) :
    Taker Node := do
  match ← peek? with
  | some (.scalar style text) =>
      skip
      return scalar style (tag.filter (· ≠ "!")) text
  | some .flowSequence =>
      skip
      return sequence (← flowItems limit true)
  | some .flowMapping =>
      skip
      return mapping (← flowFields limit true)
  | some token =>
      if unindented && token = .blockEntry then
          return sequence (← unindentedItems limit)
      else if inBlock && token = .blockSequence then
        skip
          return sequence (← blockItems limit)
      else if inBlock && token = .blockMapping then
        skip
          return mapping (← blockFields limit)
      else if hasProperties then return scalar .plain tag ""
      else fail
  | none => if hasProperties then return scalar .plain tag "" else fail
termination_by (limit, 1)

/-- Takes a node, or an empty one if one of the tokens comes next. -/
def nodeUnless (limit : Nat) (ends : List Token) (inBlock unindented : Bool) : Taker Node := do
  if ← isMissing ends then return empty else node limit inBlock unindented
termination_by (limit, 1)

/-- Takes the entries of a block sequence. -/
def blockItems : Nat → Taker (List Node)
  | 0 => fail
  | limit + 1 => do
      if ← takes .blockEnd then return []
      else if ← takes .blockEntry then
        let item ← nodeUnless limit [.blockEntry, .blockEnd] true false
        return item :: (← blockItems limit)
      else fail
termination_by limit => (limit, 0)

/-- Takes the entries of a block sequence that is not indented. -/
def unindentedItems : Nat → Taker (List Node)
  | 0 => fail
  | limit + 1 => do
      if ← takes .blockEntry then
        let item ← nodeUnless limit [.blockEntry, .key, .value, .blockEnd] true false
        return item :: (← unindentedItems limit)
      else return []
termination_by limit => (limit, 0)

/-- Takes a value, if there is one. -/
def valueUnless (limit : Nat) (ends : List Token) (inBlock : Bool) : Taker Node := do
  if ← takes .value then nodeUnless limit ends inBlock inBlock else return empty
termination_by (limit, 2)

/-- Takes the entries of a block mapping. -/
def blockFields : Nat → Taker (List (Node × Node))
  | 0 => fail
  | limit + 1 => do
      if ← takes .blockEnd then return []
      else if ← takes .key then
        let name ← nodeUnless limit [.key, .value, .blockEnd] true true
        let value ← valueUnless limit [.key, .value, .blockEnd] true
        return (name, value) :: (← blockFields limit)
      else fail
termination_by limit => (limit, 0)

/-- Takes a mapping of one entry, from behind the mark of its key. -/
def flowPair (limit : Nat) : Taker Node := do
  let missing ← isMissing [.value, .flowEntry, .flowSequenceEnd]
  let name ← if missing then (do skip; return empty) else node limit false false
  let value ← valueUnless limit [.flowEntry, .flowSequenceEnd] false
  return mapping [(name, value)]
termination_by (limit, 3)

/-- Takes the items of a sequence in brackets. -/
def flowItems : Nat → Bool → Taker (List Node)
  | 0, _ => fail
  | limit + 1, isFirst => do
      if ← takes .flowSequenceEnd then return []
      else if isFirst || (← takes .flowEntry) then
        if ← takes .flowSequenceEnd then return []
        else
          let item ← if ← takes .key then flowPair limit else node limit false false
          return item :: (← flowItems limit false)
      else fail
termination_by limit => (limit, 0)

/-- Takes the entries of a mapping in braces. -/
def flowFields : Nat → Bool → Taker (List (Node × Node))
  | 0, _ => fail
  | limit + 1, isFirst => do
      if ← takes .flowMappingEnd then return []
      else if isFirst || (← takes .flowEntry) then
        if ← takes .flowMappingEnd then return []
        else if ← takes .key then
          let name ← nodeUnless limit [.value, .flowEntry, .flowMappingEnd] false false
          let value ← valueUnless limit [.flowEntry, .flowMappingEnd] false
          return (name, value) :: (← flowFields limit false)
        else
          let name ← node limit false false
          return (name, empty) :: (← flowFields limit false)
      else fail
termination_by limit => (limit, 0)

end

/-- The handles of tags that need no declaration. -/
def standardHandles : List (String × String) :=
  [("!", "!"), ("!!", "tag:yaml.org,2002:")]

/-- What the directives in front of a document declare: the version, at most once,
and handles, each at most once. -/
def declared : Bool → List (String × String) → List Token →
    Option (List (String × String) × List Token)
  | hasVersion, handles, .version major minor :: rest =>
      if hasVersion || major ≠ 1 || (minor ≠ 1 && minor ≠ 2) then none
      else declared true handles rest
  | hasVersion, handles, .handle name start :: rest =>
      if handles.any (fun entry => entry.1 == name) then none
      else declared hasVersion ((name, start) :: handles) rest
  | _, handles, rest => some (handles, rest)

/-- Whether nothing follows a document but marks that end it. -/
def nothingFollows (tokens : List Token) : Bool := tokens.all (· == .documentEnd)

end Node

/-- A document whose aliases can be followed. -/
structure Graph where
  root : Node
  /-- The nodes that aliases stand for: the first one under a number counts. -/
  marked : List (Nat × Node)

namespace Graph

def empty : Graph := { root := Node.empty, marked := [] }

instance : Inhabited Graph := ⟨empty⟩

/-- The graph of the last document, from its first token on. -/
def ofDocument? (handles : List (String × String)) (tokens : List Token) : Option Graph := do
  let (root, source) ←
    Node.node (4 * tokens.length + 4) true false
      { tokens := tokens, names := [], marked := [], handles := handles }
  if Node.nothingFollows source.tokens then return { root := root, marked := source.marked }
  else none

/-- The graph that tokens form.  Tokens of more than one document form none. -/
def ofTokens? (tokens : List Token) : Option Graph := do
  let (handles, rest) ← Node.declared false [] tokens
  let known := handles ++ Node.standardHandles
  match rest with
  | [] => if tokens.isEmpty then return empty else none
  | .documentStart :: content =>
      if Node.nothingFollows content then return empty else ofDocument? known content
  | first :: _ =>
      if rest.length < tokens.length || first == .documentEnd then none
      else ofDocument? known rest

/-- The graph that a text writes. -/
def ofText? (text : String) : Option Graph := do ofTokens? (← Token.ofText? text.toList)

end Graph

end CoSimulation.Yaml
