import CoSimulation.Json.Shape
import CoSimulation.Json.Writer
import Mathlib.Data.List.Basic

/-!
# Reading what was written

`Answers` says what a reader makes of a text that was written with indentation: behind any
blanks it takes exactly this text and gives its value, or it refuses it.  What stands behind
a value is the end, the comma before the next one, or the line break before a bracket.
-/

namespace CoSimulation.Json

namespace Reader

variable {α β : Type} {bound : Nat} {text rest : List Char}

/-- The value at the front of a text and what is left of the text, if there is no problem. -/
def answer? (reader : Reader α) (bound : Nat) (text : List Char) : Option (α × List Char) :=
  (reader bound text).toOption

@[simp] theorem answer?_pure (value : α) :
    (pure value : Reader α).answer? bound text = some (value, text) := rfl

@[simp] theorem answer?_bind (first : Reader α) (next : α → Reader β) :
    (first >>= next).answer? bound text =
      (first.answer? bound text).bind fun taken => (next taken.1).answer? bound taken.2 := by
  change ((first bound text) >>= fun taken => next taken.1 bound taken.2).toOption = _
  rw [answer?]
  cases first bound text <;> rfl

@[simp] theorem answer?_map (function : α → β) (reader : Reader α) :
    (function <$> reader).answer? bound text =
      (reader.answer? bound text).map fun taken => (function taken.1, taken.2) := by
  change ((reader bound text).map fun taken => (function taken.1, taken.2)).toOption = _
  rw [answer?]
  cases reader bound text <;> rfl

@[simp] theorem answer?_ite {condition : Prop} [Decidable condition] (first second : Reader α) :
    (if condition then first else second).answer? bound text =
      if condition then first.answer? bound text else second.answer? bound text := by
  split <;> rfl

@[simp] theorem answer?_refuse (problem : Problem) :
    (refuse problem : Reader α).answer? bound text = none := rfl

@[simp] theorem answer?_bound : Reader.bound.answer? bound text = some (bound, text) := rfl

@[simp] theorem answer?_peek? : peek?.answer? bound text = some (text.head?, text) := rfl

@[simp] theorem answer?_next? :
    next?.answer? bound text =
      some ((text.dropWhile isBlank).head?, text.dropWhile isBlank) := rfl

@[simp] theorem answer?_skip : skip.answer? bound text = some ((), text.tail) := rfl

@[simp] theorem answer?_get : (get : Reader (List Char)).answer? bound text = some (text, text) :=
  rfl

@[simp] theorem answer?_set : (set rest : Reader PUnit).answer? bound text = some ((), rest) := rfl

@[simp] theorem answer?_word_nil : (word []).answer? bound text = some ((), text) := rfl

@[simp] theorem answer?_word_cons (c : Char) (expected : List Char) :
    (word (c :: expected)).answer? bound (c :: text) = (word expected).answer? bound text := by
  change (if c = c then word expected bound text else _).toOption = _
  rw [if_pos rfl]
  rfl

end Reader

open Reader

/-- Only blanks. -/
def Blank (text : List Char) : Prop := ∀ c ∈ text, isBlank c = true

theorem Blank.dropWhile {blanks : List Char} (blank : Blank blanks) (text : List Char) :
    (blanks ++ text).dropWhile isBlank = text.dropWhile isBlank :=
  List.dropWhile_append_of_pos blank

theorem blank_nil : Blank [] := fun _ member => absurd member List.not_mem_nil

theorem blank_newLine (level : Nat) : Blank (Writer.newLine level) := by
  intro c member
  rcases List.mem_cons.1 member with rfl | space
  · rfl
  · rw [(List.mem_replicate.1 space).2]
    rfl

theorem answer?_mark {expected : Char} {bound : Nat} {blanks rest : List Char}
    (visible : isBlank expected = false) (blank : Blank blanks) :
    (mark expected).answer? bound (blanks ++ expected :: rest) = some ((), rest) := by
  simp [mark, blank.dropWhile, visible]

/-- What may stand behind a written value. -/
def Delimited : List Char → Prop
  | [] => True
  | c :: _ => c = ',' ∨ c = '\n'

/-- The reader takes the text that was written off the front of any text and gives this
value, or it refuses the text. -/
def Answers {α : Type} (reader : Reader α) (written : List Char) (value? : Option α) : Prop :=
  ∀ ⦃bound : Nat⦄ ⦃blanks rest : List Char⦄, Blank blanks →
    (blanks ++ (written ++ rest)).length < bound → Delimited rest →
      reader.answer? bound (blanks ++ (written ++ rest)) = value?.map fun value => (value, rest)

namespace Answers

variable {α β : Type} {reader : Reader α} {written : List Char} {value? : Option α}

theorem map (answers : Answers reader written value?) (function : α → β) :
    Answers (function <$> reader) written (value?.map function) := by
  intro bound blanks rest blank enough delimited
  rw [answer?_map, answers blank enough delimited]
  cases value? <;> rfl

theorem congr {other? : Option α} (answers : Answers reader written value?)
    (same : value? = other?) : Answers reader written other? := same ▸ answers

/-- A whole text is read if the reader takes it to its end. -/
theorem read_toOption {text : String} (answers : Answers reader text.toList value?) :
    (Reader.read reader text).toOption = value? := by
  have whole : ([] ++ (text.toList ++ [])).length < text.toList.length + 1 := by simp
  have taken := answers blank_nil whole trivial
  rw [List.nil_append, List.append_nil, answer?] at taken
  rw [Reader.read]
  cases outcome : reader (text.toList.length + 1) text.toList with
  | error problem =>
      rw [outcome] at taken
      cases value? with
      | none => rfl
      | some value => cases taken
  | ok last =>
      rw [outcome] at taken
      cases value? with
      | none => cases taken
      | some value =>
          obtain rfl : last = (value, []) := Option.some.inj taken
          rfl

end Answers

namespace Shape

theorem answers_flag (value : Bool) : Answers flag (Writer.flag value) (some value) := by
  intro bound blanks rest blank enough delimited
  cases value <;> simp [flag, Writer.flag, blank.dropWhile, isBlank]

/-- Where a number is asked for, nothing is no answer. -/
theorem answers_real_null : Answers real ['n', 'u', 'l', 'l'] none := by
  intro bound blanks rest blank enough delimited
  simp [real, numeral, unexpected, blank.dropWhile, isBlank, Numeral.begins]

theorem answers_optional_null {α : Type} (value : Reader α) :
    Answers (optional value) ['n', 'u', 'l', 'l'] (some none) := by
  intro bound blanks rest blank enough delimited
  simp [optional, blank.dropWhile, isBlank]

theorem answers_optional {α : Type} {value : Reader α} {first : Char} {written : List Char}
    {value? : Option α} (visible : isBlank first = false) (notNull : first ≠ 'n')
    (answers : Answers value (first :: written) value?) :
    Answers (optional value) (first :: written) (value?.map some) := by
  intro bound blanks rest blank enough delimited
  have inner := answers blank_nil (Nat.lt_of_le_of_lt (by simp) enough) delimited
  simp only [List.nil_append, List.cons_append] at inner
  simp [optional, blank.dropWhile, visible, notNull, inner]
  cases value? <;> rfl

end Shape

/-! ## Strings -/

namespace Text

theorem answer?_escape {short : Char} {meant : Char} {bound : Nat} {rest : List Char}
    (notNumeric : short ≠ 'u') (known : shortEscape? short = some meant) :
    (escape id numericEscape).answer? bound (short :: rest) = some (meant, rest) := by
  simp [escape, notNumeric, known]

/-- The four digits that a control character is escaped with. -/
theorem codeUnit_control : ∀ value < 32,
    sumOf (['0', '0', Writer.hexDigit (value / 16), Writer.hexDigit (value % 16)].map
        Char.utf8Size) = 4 ∧
      hexNumber? ['0', '0', Writer.hexDigit (value / 16), Writer.hexDigit (value % 16)] =
        some value := by
  decide

theorem answer?_codeUnit {value bound : Nat} {rest : List Char} (control : value < 32) :
    codeUnit.answer? bound ('0' :: '0' :: Writer.hexDigit (value / 16) ::
      Writer.hexDigit (value % 16) :: rest) = some (value, rest) := by
  obtain ⟨size, number⟩ := codeUnit_control value control
  simp only [codeUnit, answer?, List.take_succ_cons, List.take_zero, List.drop_succ_cons,
    List.drop_zero, size, number]
  rfl

theorem answer?_body_escaped {meant : Char} {limit bound : Nat} {text rest : List Char}
    (escaped : (escape id numericEscape).answer? bound text = some (meant, rest)) :
    (body (escape id numericEscape) (limit + 1)).answer? bound ('\\' :: text) =
      ((body (escape id numericEscape) limit).answer? bound rest).map
        fun taken => (meant :: taken.1, taken.2) := by
  simp only [body, answer?_bind, answer?_peek?, List.head?_cons, Option.bind_some, answer?_skip,
    List.tail_cons]
  simp only [Char.reduceEq, if_false, if_true, answer?_bind, escaped, Option.bind_some,
    answer?_pure]
  cases (body (escape id numericEscape) limit).answer? bound rest <;> rfl

theorem answer?_escape_control {c : Char} {bound : Nat} {rest : List Char}
    (control : c.toNat < 32) :
    (escape id numericEscape).answer? bound ('u' :: '0' :: '0' :: Writer.hexDigit (c.toNat / 16) ::
      Writer.hexDigit (c.toNat % 16) :: rest) = some (c, rest) := by
  have basic : isLowSurrogate c.toNat = false ∧ isHighSurrogate c.toNat = false := by
    simp only [isLowSurrogate, isHighSurrogate, Bool.and_eq_false_iff, decide_eq_false_iff_not]
    omega
  simp [escape, numericEscape, answer?_codeUnit control, basic.1, basic.2, Char.ofNat_toNat]

/-- A character comes back from the way in which it is written inside a string. -/
theorem answer?_body_character (c : Char) {limit bound : Nat} {rest : List Char} :
    (body (escape id numericEscape) (limit + 1)).answer? bound (Writer.character c ++ rest) =
      ((body (escape id numericEscape) limit).answer? bound rest).map
        fun taken => (c :: taken.1, taken.2) := by
  unfold Writer.character
  split
  case h_8 notMark notBackslash _ _ _ _ _ =>
    split
    · rename_i control
      exact answer?_body_escaped (answer?_escape_control control)
    · rename_i visible
      have mark : ¬ c = '"' := notMark
      have backslash : ¬ c = '\\' := notBackslash
      simp only [List.singleton_append, body, answer?_bind, answer?_peek?, List.head?_cons,
        Option.bind_some, answer?_skip, List.tail_cons, if_neg mark, if_neg backslash,
        if_neg visible, answer?_pure]
      cases (body (escape id numericEscape) limit).answer? bound rest <;> rfl
  all_goals exact answer?_body_escaped (answer?_escape (by decide) rfl)

theorem answer?_body (value : List Char) {limit bound : Nat} {rest : List Char}
    (enough : value.length < limit) :
    (body (escape id numericEscape) limit).answer? bound
      (value.flatMap Writer.character ++ '"' :: rest) = some (value, rest) := by
  induction value generalizing limit with
  | nil =>
      obtain ⟨further, rfl⟩ := Nat.exists_eq_add_of_le' enough
      simp [body]
  | cons c value induction =>
      obtain ⟨further, rfl⟩ : ∃ further, limit = further + 1 :=
        ⟨limit - 1, by omega⟩
      rw [List.length_cons] at enough
      rw [List.flatMap_cons, List.append_assoc, answer?_body_character,
        induction (Nat.lt_of_succ_lt_succ enough)]
      rfl

/-- Every character is written with at least one. -/
theorem length_le_flatMap_character (value : List Char) :
    value.length ≤ (value.flatMap Writer.character).length := by
  induction value with
  | nil => exact Nat.le_refl 0
  | cons c value induction =>
      have some : 0 < (Writer.character c).length := by
        unfold Writer.character
        split
        case h_8 => split <;> exact Nat.succ_pos _
        all_goals exact Nat.succ_pos _
      rw [List.flatMap_cons, List.length_append, List.length_cons]
      omega

theorem answer?_read {value : String} {bound : Nat} (rest : List Char)
    (enough : (value.toList.flatMap Writer.character).length < bound) :
    Text.read.answer? bound (value.toList.flatMap Writer.character ++ '"' :: rest) =
      some (value, rest) := by
  have short := Nat.lt_of_le_of_lt (length_le_flatMap_character value.toList) enough
  simp [Text.read, answer?_body value.toList short]

end Text

theorem Shape.answers_text (value : String) :
    Answers Shape.text (Writer.text value) (some value) := by
  intro bound blanks rest blank enough delimited
  have short : (value.toList.flatMap Writer.character).length < bound := by
    simp [Writer.text] at enough ⊢
    omega
  have taken := Text.answer?_read rest short
  simp [Shape.text, Writer.text, blank.dropWhile, isBlank, taken]

/-! ## Entries -/

/-- What stands between brackets: entries on lines of their own, and commas between them. -/
def lines {β : Type} (write : β → List Char) (level : Nat) : List β → List Char
  | [] => []
  | item :: items =>
      ',' :: (Writer.newLine level ++ (write item ++ lines write level items))

theorem length_le_lines {β : Type} (write : β → List Char) (level : Nat) (items : List β) :
    items.length ≤ (lines write level items).length := by
  induction items with
  | nil => exact Nat.le_refl 0
  | cons item items induction =>
      simp only [lines, List.length_cons, List.length_append]
      omega

theorem lines_map {β γ : Type} (write : γ → List Char) (level : Nat) (part : β → γ)
    (items : List β) :
    lines write level (items.map part) = lines (fun item => write (part item)) level items := by
  induction items with
  | nil => rfl
  | cons item items induction => simp only [List.map_cons, lines, induction]

theorem spreadItems_cons (level : Nat) (item : Document) (items : List Document) :
    Writer.spreadItems level (item :: items) =
      Writer.newLine level ++ (Writer.spread level item ++
        lines (Writer.spread level) level items) := by
  induction items generalizing item with
  | nil => simp [Writer.spreadItems, lines]
  | cons other items induction => simp [Writer.spreadItems, lines, induction]

/-- A named value, as it stands on a line. -/
def named (level : Nat) (field : String × Document) : List Char :=
  Writer.text field.1 ++ (':' :: ' ' :: Writer.spread level field.2)

theorem spreadFields_cons (level : Nat) (field : String × Document)
    (fields : List (String × Document)) :
    Writer.spreadFields level (field :: fields) =
      Writer.newLine level ++ (named level field ++ lines (named level) level fields) := by
  induction fields generalizing field with
  | nil => simp [Writer.spreadFields, lines, named]
  | cons other fields induction => simp [Writer.spreadFields, lines, named, induction]

theorem delimited_lines {β : Type} (write : β → List Char) (level outer : Nat) (items : List β)
    (rest : List Char) : Delimited (lines write level items ++ (Writer.newLine outer ++ rest)) := by
  cases items with
  | nil => exact .inr rfl
  | cons item items => exact .inl rfl

/-- If every entry is read in states that stay good, all of them are, one after the other. -/
theorem answer?_moreEntries {σ β : Type} {closing : Char} {entry : σ → Reader σ}
    {write : β → List Char} (step : σ → β → Option σ) (good : σ → List β → Prop)
    (visible : isBlank closing = false) (notComma : closing ≠ ',')
    (answers : ∀ {state item items}, good state (item :: items) →
      Answers (entry state) (write item) (step state item) ∧
        ∀ next, step state item = some next → good next items)
    {level outer limit bound : Nat} {state : σ} {item : β} {items : List β}
    {blanks rest : List Char} (ready : good state (item :: items)) (few : items.length < limit)
    (blank : Blank blanks)
    (enough : (blanks ++ (write item ++ (lines write level items ++
      (Writer.newLine outer ++ closing :: rest)))).length < bound) :
    (moreEntries closing entry limit state).answer? bound
        (blanks ++ (write item ++ (lines write level items ++
          (Writer.newLine outer ++ closing :: rest)))) =
      ((item :: items).foldlM step state).map fun last => (last, rest) := by
  induction items generalizing state item blanks limit with
  | nil =>
      obtain ⟨further, rfl⟩ : ∃ further, limit = further + 1 := ⟨limit - 1, by omega⟩
      have first := (answers ready).1 blank enough (delimited_lines write level outer [] _)
      rw [moreEntries, answer?_bind, first]
      cases stepped : step state item <;>
        simp [lines, (blank_newLine outer).dropWhile, visible, stepped]
  | cons other items induction =>
      obtain ⟨further, rfl⟩ : ∃ further, limit = further + 1 := ⟨limit - 1, by omega⟩
      obtain ⟨first, kept⟩ := answers ready
      have taken := first blank enough (delimited_lines write level outer (other :: items) _)
      have different : ¬ ',' = closing := fun same => notComma same.symm
      have comma : isBlank ',' = false := rfl
      rw [moreEntries, answer?_bind, taken, List.foldlM_cons]
      cases stepped : step state item with
      | none => rfl
      | some next =>
          have shorter : (Writer.newLine level ++ (write other ++ (lines write level items ++
              (Writer.newLine outer ++ closing :: rest)))).length < bound := by
            simp only [lines, List.length_append, List.length_cons] at enough ⊢
            omega
          have later := induction (kept next stepped) (Nat.lt_of_succ_lt_succ few)
            (blank_newLine level) shorter
          simp [lines, comma, different, later]

/-- The text begins with a character that is neither blank nor a closing bracket. -/
def Opens (written : List Char) : Prop :=
  ∃ first rest, written = first :: rest ∧ isBlank first = false ∧ first ≠ ']' ∧ first ≠ '\x7d'

theorem answer?_entries {σ β : Type} {closing : Char} {entry : σ → Reader σ}
    (write : β → List Char) (step : σ → β → Option σ) (good : σ → List β → Prop) (state : σ)
    (bracket : closing = ']' ∨ closing = '\x7d')
    (answers : ∀ {state item items}, good state (item :: items) →
      Answers (entry state) (write item) (step state item) ∧
        ∀ next, step state item = some next → good next items)
    {level outer bound : Nat} {item : β} {items : List β} {rest : List Char}
    (ready : good state (item :: items)) (opens : Opens (write item))
    (enough : (Writer.newLine level ++ (write item ++ (lines write level items ++
      (Writer.newLine outer ++ closing :: rest)))).length < bound) :
    (entries closing entry state).answer? bound
        (Writer.newLine level ++ (write item ++ (lines write level items ++
          (Writer.newLine outer ++ closing :: rest)))) =
      ((item :: items).foldlM step state).map fun last => (last, rest) := by
  obtain ⟨first, others, written, visible, notList, notRecord⟩ := opens
  have open_ : ¬ first = closing := by
    rcases bracket with rfl | rfl
    · exact notList
    · exact notRecord
  have plain : isBlank closing = false ∧ closing ≠ ',' := by
    rcases bracket with rfl | rfl <;> decide
  have few : items.length < bound := by
    have count := length_le_lines write level items
    simp only [List.length_append] at enough
    omega
  have shorter : ([] ++ (write item ++ (lines write level items ++
      (Writer.newLine outer ++ closing :: rest)))).length < bound := by
    simp only [List.length_append, List.length_nil] at enough ⊢
    omega
  have taken := answer?_moreEntries step good plain.1 plain.2 answers ready few blank_nil shorter
  rw [List.nil_append, written, List.cons_append] at taken
  simp [entries, (blank_newLine level).dropWhile, written, visible, open_, taken]

namespace Shape

theorem foldlM_collect {β γ : Type} (value? : β → Option γ) (items : List β) (earlier : List γ) :
    (items.foldlM (fun collected item => (value? item).map (· :: collected)) earlier).map
        List.reverse =
      (items.mapM value?).map (earlier.reverse ++ ·) := by
  induction items generalizing earlier with
  | nil => simp
  | cons item items induction =>
      rw [List.foldlM_cons, List.mapM_cons]
      cases value? item with
      | none => rfl
      | some value =>
          refine (induction (value :: earlier)).trans ?_
          cases items.mapM value? <;> simp

theorem answers_list {β γ : Type} {item : Reader γ} {value? : β → Option γ} (level : Nat)
    (document : β → Document) (items : List β)
    (opens : ∀ member ∈ items, Opens (Writer.spread (level + 1) (document member)))
    (answers : ∀ member ∈ items,
      Answers item (Writer.spread (level + 1) (document member)) (value? member)) :
    Answers (list item) (Writer.spread level (.list (items.map document)))
      (items.mapM value?) := by
  intro bound blanks rest blank enough delimited
  cases items with
  | nil => simp [list, Writer.spread, blank.dropWhile, isBlank, entries]
  | cons first items =>
      have written : Writer.spread level (.list ((first :: items).map document)) ++ rest =
          '[' :: (Writer.newLine (level + 1) ++ (Writer.spread (level + 1) (document first) ++
            (lines (fun member => Writer.spread (level + 1) (document member)) (level + 1) items ++
              (Writer.newLine level ++ ']' :: rest)))) := by
        simp [Writer.spread, spreadItems_cons, lines_map]
      rw [written] at enough ⊢
      have shorter : (Writer.newLine (level + 1) ++ (Writer.spread (level + 1) (document first) ++
          (lines (fun member => Writer.spread (level + 1) (document member)) (level + 1) items ++
            (Writer.newLine level ++ ']' :: rest)))).length < bound := by
        simp only [List.length_append, List.length_cons] at enough ⊢
        omega
      have taken := answer?_entries
        (fun member => Writer.spread (level + 1) (document member))
        (fun collected member => (value? member).map (· :: collected))
        (fun _ members => ∀ member ∈ members,
          Answers item (Writer.spread (level + 1) (document member)) (value? member))
        [] (.inl rfl)
        (fun good => ⟨(good _ List.mem_cons_self).map fun value => value :: _,
          fun _ _ member later => good member (List.mem_cons_of_mem _ later)⟩)
        answers (opens first List.mem_cons_self) shorter
      have collected := foldlM_collect value? (first :: items) []
      simp only [List.reverse_nil, List.nil_append, Option.map_id'] at collected
      have reversed : ∀ outcome : Option (List γ),
          ((outcome.map fun last => (last, rest)).map fun taken => (taken.1.reverse, taken.2)) =
            (outcome.map List.reverse).map fun value => (value, rest) := by
        intro outcome
        cases outcome <;> rfl
      rw [← collected, ← reversed, ← taken]
      simp [list, blank.dropWhile, isBlank]

/-- A field, what is written for it, and what this does to the record. -/
structure Part (α : Type) where
  field : Field Reader α
  document : Document
  update? : Option (α → α)

namespace Part

variable {α : Type}

def name (part : Part α) : String := part.field.name

/-- What is written of the part. -/
def entry (part : Part α) : String × Document := (part.name, part.document)

/-- The record with the field, if it can be read. -/
def updated? (record : α) (part : Part α) : Option α := part.update?.map fun update => update record

def step? (draft : Draft α) (part : Part α) : Option (Draft α) :=
  (part.updated? draft.record).map fun record =>
    { record := record, given := part.name :: draft.given }

/-- Parts that are still to be read, and have names that were not read yet. -/
structure Pending (parts : List (Part α)) (draft : Draft α) (rest : List (Part α)) : Prop where
  listed : ∀ part ∈ rest, part ∈ parts
  unread : ∀ part ∈ rest, part.name ∉ draft.given
  distinct : (rest.map name).Nodup

theorem Pending.step? {parts rest : List (Part α)} {draft next : Draft α} {part : Part α}
    (pending : Pending parts draft (part :: rest)) (stepped : part.step? draft = some next) :
    Pending parts next rest := by
  obtain ⟨record, -, rfl⟩ := Option.map_eq_some_iff.1 stepped
  obtain ⟨fresh, distinct⟩ := List.nodup_cons.1 pending.distinct
  refine ⟨fun other later => pending.listed other (List.mem_cons_of_mem _ later), ?_, distinct⟩
  intro other later given
  rcases List.mem_cons.1 given with same | before
  · exact fresh (same ▸ List.mem_map.2 ⟨other, later, rfl⟩)
  · exact pending.unread other (List.mem_cons_of_mem _ later) before

theorem foldlM_step? (parts : List (Part α)) (draft : Draft α) :
    parts.foldlM step? draft =
      (parts.foldlM updated? draft.record).map fun record =>
        { record := record, given := (parts.map name).reverse ++ draft.given } := by
  induction parts generalizing draft with
  | nil => rfl
  | cons part parts induction =>
      rw [List.foldlM_cons, List.foldlM_cons, step?]
      cases part.updated? draft.record with
      | none => rfl
      | some record =>
          refine (induction _).trans ?_
          simp

theorem find?_field {parts : List (Part α)} (distinct : (parts.map name).Nodup) {part : Part α}
    (member : part ∈ parts) :
    (parts.map field).find? (fun field => field.name == part.name) = some part.field := by
  induction parts with
  | nil => cases member
  | cons first parts induction =>
      obtain ⟨fresh, others⟩ := List.nodup_cons.1 distinct
      rcases List.mem_cons.1 member with rfl | later
      · exact List.find?_cons_of_pos (beq_self_eq_true part.name)
      · have different : ¬ first.field.name = part.name := fun same =>
          fresh (List.mem_map.2 ⟨part, later, same.symm⟩)
        simpa [List.find?_cons, different] using induction others later

end Part

theorem answers_entry {α : Type} {parts : List (Part α)} (level : Nat)
    (distinct : (parts.map Part.name).Nodup) {part : Part α} (member : part ∈ parts)
    (answers : Answers part.field.update (Writer.spread level part.document) part.update?)
    {draft : Draft α} (new : part.name ∉ draft.given) :
    Answers (entry (parts.map Part.field) draft) (named level part.entry) (part.step? draft) := by
  intro bound blanks rest blank enough delimited
  have text : named level part.entry ++ rest =
      '"' :: (part.name.toList.flatMap Writer.character ++
        '"' :: ':' :: ' ' :: (Writer.spread level part.document ++ rest)) := by
    simp [named, Writer.text, Part.entry]
  rw [text] at enough ⊢
  simp only [List.length_append, List.length_cons] at enough
  have read : Text.read.answer? bound (part.name.toList.flatMap Writer.character ++
        '"' :: ':' :: ' ' :: (Writer.spread level part.document ++ rest)) =
      some (part.name, ':' :: ' ' :: (Writer.spread level part.document ++ rest)) :=
    Text.answer?_read _ (by omega)
  have space : Blank [' '] := fun c member => by
    rw [List.mem_singleton.1 member]
    rfl
  have shorter : ([' '] ++ (Writer.spread level part.document ++ rest)).length < bound := by
    simp only [List.length_append, List.length_singleton]
    omega
  have taken := answers space shorter delimited
  have unread : draft.given.contains part.name = false := by simpa using new
  have found := Part.find?_field distinct member
  rw [List.singleton_append] at taken
  have colon : (mark ':').answer? bound
      (':' :: ' ' :: (Writer.spread level part.document ++ rest)) =
        some ((), ' ' :: (Writer.spread level part.document ++ rest)) :=
    answer?_mark rfl blank_nil
  rw [entry, answer?_bind, answer?_mark rfl blank]
  simp only [Option.bind_some, answer?_bind, read, found, unread, Bool.false_eq_true, if_false,
    colon, taken, answer?_pure, Part.step?, Part.updated?]
  cases part.update? <;> rfl

theorem answer?_record {α : Type} {fields : List (Field Reader α)} {start : α} {bound : Nat}
    {blanks inside : List Char} {outcome : Option (Draft α × List Char)} (blank : Blank blanks)
    (taken : (entries '\x7d' (entry fields) { record := start, given := [] }).answer? bound
      inside = outcome) :
    (record fields start).answer? bound (blanks ++ '\x7b' :: inside) =
      outcome.bind fun last => (complete fields last.1).answer? bound last.2 := by
  simp [record, blank.dropWhile, isBlank, taken]

theorem answer?_complete {α : Type} {parts : List (Part α)} {result : α} {names : List String}
    {bound : Nat} {rest : List Char} (given : ∀ part ∈ parts, part.name ∈ names) :
    (complete (parts.map Part.field) { record := result, given := names.reverse }).answer? bound
      rest = some (result, rest) := by
  have all : ∀ part ∈ parts, part.field.required = true → part.field.name ∈ names :=
    fun part member _ => given part member
  simpa [complete] using all

/-- A record is read by reading its parts, one after the other, if their names differ. -/
theorem answers_record {α : Type} (level : Nat) (start : α) {parts : List (Part α)}
    (nonempty : parts ≠ []) (distinct : (parts.map Part.name).Nodup)
    (answers : ∀ part ∈ parts,
      Answers part.field.update (Writer.spread (level + 1) part.document) part.update?) :
    Answers (record (parts.map Part.field) start)
      (Writer.spread level (.record (parts.map Part.entry)))
      (parts.foldlM Part.updated? start) := by
  intro bound blanks rest blank enough delimited
  obtain ⟨first, others, rfl⟩ := List.exists_cons_of_ne_nil nonempty
  have written :
      Writer.spread level (.record ((first :: others).map Part.entry)) ++ rest =
        '\x7b' :: (Writer.newLine (level + 1) ++ (named (level + 1) first.entry ++
          (lines (fun part => named (level + 1) (Part.entry part)) (level + 1) others ++
            (Writer.newLine level ++ '\x7d' :: rest)))) := by
    simp [Writer.spread, spreadFields_cons, lines_map]
  rw [written] at enough ⊢
  have shorter : (Writer.newLine (level + 1) ++ (named (level + 1) first.entry ++
      (lines (fun part => named (level + 1) (Part.entry part)) (level + 1) others ++
        (Writer.newLine level ++ '\x7d' :: rest)))).length < bound := by
    simp only [List.length_append, List.length_cons] at enough ⊢
    omega
  have each : ∀ {draft : Draft α} {part : Part α} {rest : List (Part α)},
      Part.Pending (first :: others) draft (part :: rest) →
        Answers (entry ((first :: others).map Part.field) draft)
            (named (level + 1) part.entry) (part.step? draft) ∧
          ∀ next, part.step? draft = some next → Part.Pending (first :: others) next rest := by
    intro draft part rest pending
    have member := pending.listed part List.mem_cons_self
    exact ⟨answers_entry (level + 1) distinct member (answers part member)
      (pending.unread part List.mem_cons_self), fun next stepped => pending.step? stepped⟩
  have ready : Part.Pending (first :: others) { record := start, given := [] }
      (first :: others) :=
    ⟨fun part member => member, fun part _ => List.not_mem_nil, distinct⟩
  have opens : Opens (named (level + 1) first.entry) :=
    ⟨'"', _, rfl, rfl, by decide, by decide⟩
  have taken : (entries '\x7d' (entry ((first :: others).map Part.field))
      { record := start, given := [] }).answer? bound
        (Writer.newLine (level + 1) ++ (named (level + 1) first.entry ++
          (lines (fun part => named (level + 1) (Part.entry part)) (level + 1) others ++
            (Writer.newLine level ++ '\x7d' :: rest)))) =
      ((first :: others).foldlM Part.step? { record := start, given := [] }).map
        fun last => (last, rest) :=
    answer?_entries (fun part : Part α => named (level + 1) part.entry) Part.step?
      (Part.Pending (first :: others)) _ (.inr rfl) each ready opens shorter
  rw [Part.foldlM_step?, List.append_nil] at taken
  rw [answer?_record blank taken]
  cases (first :: others).foldlM Part.updated? start with
  | none => rfl
  | some result => exact answer?_complete fun part member => List.mem_map.2 ⟨part, member, rfl⟩

theorem opens_record (level : Nat) (entries : List (String × Document)) :
    Opens (Writer.spread level (.record entries)) := by
  cases entries <;> exact ⟨'\x7b', _, rfl, rfl, by decide, by decide⟩

/-- Fields, what is written for them, and what reading it does to a record. -/
inductive Fields {α : Type} (level : Nat) :
    List (Field Reader α) → List (String × Document) → (α → Option α) → Prop
  | nil : Fields level [] [] some
  | cons {field : Field Reader α} {document : Document} {update? : Option (α → α)}
      {fields : List (Field Reader α)} {entries : List (String × Document)}
      {outcome? : α → Option α}
      (answers : Answers field.update (Writer.spread level document) update?)
      (others : Fields level fields entries outcome?) :
      Fields level (field :: fields) ((field.name, document) :: entries)
        fun record => (update?.map fun update => update record).bind outcome?

theorem Fields.exists_parts {α : Type} {level : Nat} {fields : List (Field Reader α)}
    {entries : List (String × Document)} {outcome? : α → Option α}
    (written : Fields level fields entries outcome?) :
    ∃ parts : List (Part α), parts.map Part.field = fields ∧ parts.map Part.entry = entries ∧
      (∀ part ∈ parts,
        Answers part.field.update (Writer.spread level part.document) part.update?) ∧
      ∀ start, parts.foldlM Part.updated? start = outcome? start := by
  induction written with
  | nil => exact ⟨[], rfl, rfl, fun part member => absurd member List.not_mem_nil, fun _ => rfl⟩
  | @cons field document update? fields entries outcome? answers others induction =>
      obtain ⟨parts, rfl, rfl, all, same⟩ := induction
      refine ⟨⟨field, document, update?⟩ :: parts, rfl, rfl,
        List.forall_mem_cons.2 ⟨answers, all⟩, fun start => ?_⟩
      rw [List.foldlM_cons]
      exact congrArg _ (funext same)

theorem answers_fields {α : Type} (level : Nat) (start : α) {fields : List (Field Reader α)}
    {entries : List (String × Document)} {outcome? : α → Option α}
    (written : Fields (level + 1) fields entries outcome?) (nonempty : fields ≠ [])
    (distinct : (fields.map Field.name).Nodup) :
    Answers (record fields start) (Writer.spread level (.record entries)) (outcome? start) := by
  obtain ⟨parts, rfl, rfl, answers, same⟩ := written.exists_parts
  rw [← same]
  rw [List.map_map] at distinct
  exact answers_record level start (fun empty => nonempty (by rw [empty]; rfl)) distinct answers

end Shape

end CoSimulation.Json
