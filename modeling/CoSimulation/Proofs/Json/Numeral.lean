import CoSimulation.Proofs.Decimal.Shortest
import CoSimulation.Proofs.Json.Reading

/-!
# Reading written numbers

The reader takes the digits of a number as one integer, as long as it is below `2 ^ 64`, and
then scales it by a power of ten.  The digits that were written fit; only the zeros that fill
up a whole number are taken for digits as well.  `reread?` is what comes back.
-/

namespace CoSimulation.Json

namespace Numeral

open Binary64 (countLimit)
open Reader

/-! ## Digits -/

/-- Only digits. -/
def Digits (text : List Char) : Prop := ∀ c ∈ text, c.isDigit = true

/-- No digit comes next. -/
def Ends (rest : List Char) : Prop := ∀ c, rest.head? = some c → c.isDigit = false

variable {bound value significand : Nat} {negative : Bool} {scale : Int}
variable {digits whole fraction rest : List Char}

theorem digits_nil : Digits [] := fun _ member => absurd member List.not_mem_nil

theorem Digits.append (first : Digits whole) (second : Digits fraction) :
    Digits (whole ++ fraction) := fun c member =>
  (List.mem_append.1 member).elim (first c) (second c)

theorem digits_replicate (count : Nat) : Digits (List.replicate count '0') := by
  intro c member
  rw [(List.mem_replicate.1 member).2]
  rfl

theorem digits_toDigits (n : Nat) : Digits (Nat.toDigits 10 n) := fun _ member =>
  Nat.isDigit_of_mem_toDigits (by decide) (by decide) member

theorem ends_of_cons {c : Char} (noDigit : c.isDigit = false) : Ends (c :: rest) := by
  intro other next
  obtain rfl := Option.some.inj next
  exact noDigit

theorem ends_of_delimited (delimited : Delimited rest) : Ends rest := by
  cases rest with
  | nil => exact fun c next => absurd next (by simp)
  | cons c rest => rcases delimited with rfl | rfl <;> exact ends_of_cons rfl

theorem takeWhile_digits (only : Digits digits) (ends : Ends rest) :
    (digits ++ rest).takeWhile Char.isDigit = digits := by
  rw [List.takeWhile_append_of_pos only]
  cases rest with
  | nil => simp
  | cons c rest => simp [ends c rfl]

theorem dropWhile_digits (only : Digits digits) (ends : Ends rest) :
    (digits ++ rest).dropWhile Char.isDigit = rest := by
  rw [List.dropWhile_append_of_pos only]
  cases rest with
  | nil => rfl
  | cons c rest => simp [ends c rfl]

theorem answer?_dropDigits (bound : Nat) (only : Digits digits) (ends : Ends rest) :
    dropDigits.answer? bound (digits ++ rest) = some (digits.length, rest) := by
  change some (((digits ++ rest).takeWhile Char.isDigit).length,
    (digits ++ rest).dropWhile Char.isDigit) = _
  rw [takeWhile_digits only ends, dropWhile_digits only ends]

theorem le_ofDigitChars (digits : List Char) (value : Nat) :
    value ≤ Nat.ofDigitChars 10 digits value := by
  rw [Nat.ofDigitChars_eq_ofDigitChars_zero]
  exact Nat.le_trans (Nat.le_mul_of_pos_left _ (Nat.pow_pos (by decide))) (Nat.le_add_right _ _)

theorem takeDigits_append (only : Digits digits) (ends : Ends rest) (count : Nat)
    (bounded : Nat.ofDigitChars 10 digits value ≤ countLimit) :
    takeDigits value count (digits ++ rest) =
      (Nat.ofDigitChars 10 digits value, count + digits.length, rest) := by
  induction digits generalizing value count with
  | nil =>
      cases rest with
      | nil => rfl
      | cons c rest => simp [takeDigits, Decimal.digitValue?, ends c rfl]
  | cons c digits induction =>
      have isDigit := only c List.mem_cons_self
      have fits := Nat.le_trans (le_ofDigitChars digits _) bounded
      have later := induction (fun c member => only c (List.mem_cons_of_mem _ member))
        (count + 1) bounded
      rw [List.cons_append, takeDigits]
      simp only [Decimal.digitValue?, isDigit, if_true]
      rw [if_pos fits, later, List.length_cons, Nat.ofDigitChars_cons]
      simp only [Prod.mk.injEq, and_true, true_and]
      omega

/-! ## The parts of a number -/

@[simp] theorem answer?_finish :
    (finish negative significand scale).answer? bound rest =
      (scaled? significand scale).map fun x => (.real (if negative then -x else x), rest) := by
  rw [finish]
  cases scaled? significand scale <;> rfl

/-- At least one digit. -/
structure Figures (digits : List Char) : Prop where
  nonempty : digits ≠ []
  only : Digits digits

theorem figures_toDigits (n : Nat) : Figures (Nat.toDigits 10 n) :=
  ⟨Nat.toDigits_ne_nil, digits_toDigits n⟩

theorem answer?_exponentPart {sign : Char} (signed : sign = '+' ∨ sign = '-')
    (figures : Figures digits) (ends : Ends rest)
    (small : Decimal.digitsValue digits ≤ exponentLimit) :
    (exponentPart negative significand scale).answer? bound ('e' :: sign :: (digits ++ rest)) =
      (finish negative significand (if sign = '-' then scale - Decimal.digitsValue digits
        else scale + Decimal.digitsValue digits)).answer? bound rest := by
  obtain ⟨first, others, rfl⟩ := List.exists_cons_of_ne_nil figures.nonempty
  have isDigit := figures.only first List.mem_cons_self
  have dropped := answer?_dropDigits bound figures.only ends
  have taken := takeWhile_digits figures.only ends
  have plain : ¬ exponentLimit < Decimal.digitsValue (first :: others) := Nat.not_lt.2 small
  rw [List.cons_append] at dropped taken
  rcases signed with rfl | rfl <;>
    simp [exponentPart, isDigit, dropped, taken, plain]

theorem answer?_tail_point (figures : Figures fraction) (ends : Ends rest)
    (bounded : Nat.ofDigitChars 10 fraction significand ≤ countLimit) :
    (tail negative significand 0).answer? bound ('.' :: (fraction ++ rest)) =
      (if isExponentMark rest.head? then
        exponentPart negative (Nat.ofDigitChars 10 fraction significand) (-fraction.length)
      else finish negative (Nat.ofDigitChars 10 fraction significand)
        (-fraction.length)).answer? bound rest := by
  have taken := takeDigits_append figures.only ends 0 bounded
  have none := answer?_dropDigits bound digits_nil ends
  have some : fraction.length ≠ 0 := fun empty =>
    figures.nonempty (List.length_eq_zero_iff.1 empty)
  simp only [List.nil_append, List.length_nil] at none
  simp [tail, fractionPart, taken, none, some]

theorem answer?_tail_mark :
    (tail negative significand 0).answer? bound ('e' :: rest) =
      (exponentPart negative significand 0).answer? bound ('e' :: rest) := by
  simp [tail, isExponentMark]

theorem answer?_tail_whole (delimited : Delimited rest) :
    (tail false significand 0).answer? bound rest = some (.whole significand, rest) := by
  cases rest with
  | nil => rfl
  | cons c rest => rcases delimited with rfl | rfl <;> rfl

/-- Digits in front of the point, without a superfluous zero. -/
structure Leading (whole : List Char) : Prop where
  first : whole = ['0'] ∨ ∃ first others, whole = first :: others ∧ first ≠ '0'
  only : Digits whole

theorem leading_zero : Leading ['0'] := ⟨.inl rfl, digits_replicate 1⟩

theorem Leading.begins (leading : Leading whole) (more : List Char) :
    ∃ first others, whole ++ more = first :: others ∧ first.isDigit = true := by
  have only := leading.only
  rcases leading.first with rfl | ⟨first, others, rfl, -⟩
  · exact ⟨'0', more, rfl, rfl⟩
  · exact ⟨first, others ++ more, rfl, only first List.mem_cons_self⟩

theorem answer?_unsigned (bound : Nat) (negative : Bool) (leading : Leading whole)
    (ends : Ends rest) (bounded : Nat.ofDigitChars 10 whole 0 ≤ countLimit) :
    (unsigned negative).answer? bound (whole ++ rest) =
      (tail negative (Nat.ofDigitChars 10 whole 0) 0).answer? bound rest := by
  rcases leading.first with rfl | ⟨first, others, rfl, notZero⟩
  · cases rest with
    | nil => rfl
    | cons c rest =>
        have zero : Nat.ofDigitChars 10 ['0'] 0 = 0 := rfl
        simp [unsigned, ends c rfl, zero]
  · have isDigit := leading.only first List.mem_cons_self
    have taken := takeDigits_append leading.only ends 0 bounded
    have none := answer?_dropDigits bound digits_nil ends
    rw [List.cons_append] at taken
    simp only [List.nil_append, List.length_nil] at none
    simp [unsigned, notZero, isDigit, taken, none]

/-! ## Spellings -/

/-- The text begins with a digit, and in front of what may stand behind a value it is read to
its end, as an integer that is scaled by a power of ten. -/
structure ReadsAs (text : List Char) (significand : Nat) (scale : Int) : Prop where
  begins : ∃ first others, text = first :: others ∧ first.isDigit = true
  reads : ∀ (bound : Nat) (negative : Bool) {rest : List Char}, Delimited rest →
    (unsigned negative).answer? bound (text ++ rest) =
      (finish negative significand scale).answer? bound rest

theorem noMark (delimited : Delimited rest) : isExponentMark rest.head? = false := by
  cases rest with
  | nil => rfl
  | cons c rest => rcases delimited with rfl | rfl <;> rfl

theorem readsAs_pointed (whole fraction : List Char) (leading : Leading whole)
    (figures : Figures fraction)
    (bounded : Nat.ofDigitChars 10 (whole ++ fraction) 0 ≤ countLimit) :
    ReadsAs (whole ++ '.' :: fraction) (Nat.ofDigitChars 10 (whole ++ fraction) 0)
      (-fraction.length) := by
  refine ⟨leading.begins _, ?_⟩
  intro bound negative rest delimited
  rw [Nat.ofDigitChars_append] at bounded ⊢
  have small := Nat.le_trans (le_ofDigitChars fraction _) bounded
  rw [List.append_assoc, List.cons_append,
    answer?_unsigned bound negative leading (ends_of_cons rfl) small,
    answer?_tail_point figures (ends_of_delimited delimited) bounded, noMark delimited]
  rfl

/-- A sign and digits behind the mark of an exponent. -/
structure Exponent (sign : Char) (digits : List Char) : Prop where
  signed : sign = '+' ∨ sign = '-'
  figures : Figures digits
  small : Decimal.digitsValue digits ≤ exponentLimit

/-- The exponent that is written with a sign and digits. -/
def exponentOf (sign : Char) (digits : List Char) : Int :=
  if sign = '-' then -Decimal.digitsValue digits else Decimal.digitsValue digits

theorem Exponent.answer? {sign : Char} (exponent : Exponent sign digits)
    (delimited : Delimited rest) :
    (exponentPart negative significand scale).answer? bound ('e' :: sign :: (digits ++ rest)) =
      (finish negative significand (scale + exponentOf sign digits)).answer? bound rest := by
  rw [answer?_exponentPart exponent.signed exponent.figures (ends_of_delimited delimited)
    exponent.small, exponentOf]
  split <;> rfl

theorem readsAs_marked (sign : Char) (whole digits : List Char) (leading : Leading whole)
    (exponent : Exponent sign digits) (bounded : Nat.ofDigitChars 10 whole 0 ≤ countLimit) :
    ReadsAs (whole ++ 'e' :: sign :: digits) (Nat.ofDigitChars 10 whole 0)
      (exponentOf sign digits) := by
  refine ⟨leading.begins _, ?_⟩
  intro bound negative rest delimited
  rw [List.append_assoc, List.cons_append, List.cons_append,
    answer?_unsigned bound negative leading (ends_of_cons rfl) bounded, answer?_tail_mark,
    exponent.answer? delimited, Int.zero_add]

theorem readsAs_pointed_marked (sign : Char) (whole fraction digits : List Char)
    (leading : Leading whole) (figures : Figures fraction) (exponent : Exponent sign digits)
    (bounded : Nat.ofDigitChars 10 (whole ++ fraction) 0 ≤ countLimit) :
    ReadsAs (whole ++ '.' :: (fraction ++ 'e' :: sign :: digits))
      (Nat.ofDigitChars 10 (whole ++ fraction) 0)
      (-fraction.length + exponentOf sign digits) := by
  refine ⟨leading.begins _, ?_⟩
  intro bound negative rest delimited
  rw [Nat.ofDigitChars_append] at bounded ⊢
  have fits := Nat.le_trans (le_ofDigitChars fraction _) bounded
  rw [List.append_assoc, List.cons_append, List.append_assoc, List.cons_append,
    List.cons_append, answer?_unsigned bound negative leading (ends_of_cons rfl) fits,
    answer?_tail_point figures (ends_of_cons rfl) bounded]
  exact exponent.answer? delimited

theorem ofDigitChars_zeros (count : Nat) (text : List Char) :
    Nat.ofDigitChars 10 (['0'] ++ (List.replicate count '0' ++ text)) 0 =
      Nat.ofDigitChars 10 text 0 := by
  rw [Nat.ofDigitChars_append, Nat.ofDigitChars_append, Nat.ofDigitChars_replicate_zero]
  rfl

theorem positional_front (format : NumberFormat) {point : Int} (front : point ≤ 0) :
    format.positional digits point =
      ['0'] ++ '.' :: (List.replicate (-point).toNat '0' ++ digits) := by
  rw [NumberFormat.positional, if_pos front]
  rfl

theorem positional_behind (format : NumberFormat) {point : Int} (inside : 0 < point)
    (behind : digits.length ≤ point) :
    format.positional digits point =
      digits ++ List.replicate (point - digits.length).toNat '0' ++ format.wholeEnding.toList := by
  rw [NumberFormat.positional, if_neg (Int.not_le.2 inside), if_pos behind]
  rfl

theorem positional_between (format : NumberFormat) {point : Int} (inside : 0 < point)
    (between : point < digits.length) :
    format.positional digits point =
      digits.take point.toNat ++ '.' :: digits.drop point.toNat := by
  rw [NumberFormat.positional, if_neg (Int.not_le.2 inside), if_neg (Int.not_le.2 between)]

/-! ## Written decimals -/

theorem exists_cons_toDigits {n : Nat} (positive : 0 < n) :
    ∃ first others, Nat.toDigits 10 n = first :: others ∧ first ≠ '0' := by
  induction n using Nat.strongRecOn with
  | ind n induction =>
      rcases Nat.lt_or_ge n 10 with single | several
      · have digit : ∀ digit < 10, 0 < digit → Nat.digitChar digit ≠ '0' := by decide
        exact ⟨_, [], Nat.toDigits_of_lt_base single, digit n single positive⟩
      · obtain ⟨first, others, front, notZero⟩ :=
          induction (n / 10) (Nat.div_lt_self positive (by decide)) (by omega)
        refine ⟨first, others ++ [Nat.digitChar (n % 10)], ?_, notZero⟩
        rw [Nat.toDigits_of_base_le (by decide) several, front, List.cons_append]

/-- The digits of a decimal. -/
abbrev written (number : Decimal) : List Char := Nat.toDigits 10 number.digits

/-- How many digits stand in front of the point. -/
def point (number : Decimal) : Int := (written number).length + number.exponent

/-- The integer that a written decimal is read as, and the power of ten that scales it.  A
whole number is written with all its zeros and one more behind the point. -/
def parts (number : Decimal) : Nat × Int :=
  if 0 ≤ number.exponent ∧ point number ≤ 16 then
    (number.digits * tenTo (number.exponent.toNat + 1), -1)
  else (number.digits, number.exponent)

section Written

variable {magnitude : Nat} {number : Decimal}

theorem value_written (number : Decimal) :
    Nat.ofDigitChars 10 (written number) 0 = number.digits :=
  Nat.ofDigitChars_ten_toDigits

theorem length_written (spec : Decimal.Shortest magnitude number) :
    0 < (written number).length ∧ (written number).length ≤ 20 := by
  refine ⟨List.length_pos_iff.2 Nat.toDigits_ne_nil, ?_⟩
  rw [Nat.length_toDigits_le_iff (by decide) (by decide)]
  exact Nat.lt_of_le_of_lt spec.few (by decide)

theorem readsAs_front (spec : Decimal.Shortest magnitude number) (front : point number ≤ 0) :
    ReadsAs (NumberFormat.json.positional (written number) (point number)) number.digits
      number.exponent := by
  have value := (ofDigitChars_zeros (-point number).toNat (written number)).trans
    (value_written number)
  have figures : Figures (List.replicate (-point number).toNat '0' ++ written number) :=
    ⟨fun empty => Nat.toDigits_ne_nil (List.append_eq_nil_iff.1 empty).2,
      (digits_replicate _).append (digits_toDigits _)⟩
  have reads := readsAs_pointed ['0'] _ leading_zero figures
    (Nat.le_trans (Nat.le_of_eq value) spec.few)
  have scale : -((List.replicate (-point number).toNat '0' ++ written number).length : Int) =
      number.exponent := by
    rw [List.length_append, List.length_replicate]
    simp only [point] at front ⊢
    omega
  rwa [value, scale, ← positional_front _ front] at reads

theorem readsAs_between (spec : Decimal.Shortest magnitude number) (inside : 0 < point number)
    (between : number.exponent < 0) :
    ReadsAs (NumberFormat.json.positional (written number) (point number)) number.digits
      number.exponent := by
  obtain ⟨first, others, front, notZero⟩ := exists_cons_toDigits spec.positive
  have split := List.take_append_drop (point number).toNat (written number)
  have inner : point number < (written number).length := by
    simp only [point]
    omega
  have leading : Leading ((written number).take (point number).toNat) := by
    refine ⟨.inr ⟨first, others.take ((point number).toNat - 1), ?_, notZero⟩,
      fun c member => digits_toDigits _ c (List.mem_of_mem_take member)⟩
    obtain ⟨earlier, next⟩ : ∃ earlier, (point number).toNat = earlier + 1 :=
      ⟨(point number).toNat - 1, by omega⟩
    rw [next, written, front, List.take_succ_cons, Nat.add_sub_cancel]
  have figures : Figures ((written number).drop (point number).toNat) := by
    refine ⟨fun empty => ?_, fun c member => digits_toDigits _ c (List.mem_of_mem_drop member)⟩
    have all := List.drop_eq_nil_iff.1 empty
    omega
  have value : Nat.ofDigitChars 10 ((written number).take (point number).toNat ++
      (written number).drop (point number).toNat) 0 = number.digits := by
    rw [split, value_written]
  have reads := readsAs_pointed _ _ leading figures (Nat.le_trans (Nat.le_of_eq value) spec.few)
  have scale : -(((written number).drop (point number).toNat).length : Int) =
      number.exponent := by
    rw [List.length_drop]
    simp only [point] at inside inner ⊢
    omega
  rwa [value, scale, ← positional_between _ inside inner] at reads

/-- A whole number that is filled up with zeros has at most 17 digits. -/
theorem filled_counts (spec : Decimal.Shortest magnitude number)
    (whole : 0 ≤ number.exponent) (short : point number ≤ 16) :
    number.digits * tenTo (number.exponent.toNat + 1) ≤ countLimit := by
  have some := (length_written spec).1
  have below : number.digits < 10 ^ (written number).length :=
    (Nat.length_toDigits_le_iff (by decide) some).1 (Nat.le_refl _)
  calc number.digits * tenTo (number.exponent.toNat + 1)
      ≤ 10 ^ (written number).length * 10 ^ (number.exponent.toNat + 1) :=
        Nat.mul_le_mul_right _ (Nat.le_of_lt below)
    _ = 10 ^ ((written number).length + (number.exponent.toNat + 1)) := (Nat.pow_add ..).symm
    _ ≤ 10 ^ 17 := by
        refine Nat.pow_le_pow_right (by decide) ?_
        simp only [point] at short
        omega
    _ ≤ countLimit := by decide

theorem readsAs_behind (spec : Decimal.Shortest magnitude number)
    (whole : 0 ≤ number.exponent) (short : point number ≤ 16) :
    ReadsAs (NumberFormat.json.positional (written number) (point number))
      (number.digits * tenTo (number.exponent.toNat + 1)) (-1) := by
  obtain ⟨first, others, front, notZero⟩ := exists_cons_toDigits spec.positive
  have some := (length_written spec).1
  have zeros : (point number - (written number).length).toNat = number.exponent.toNat := by
    simp only [point]
    omega
  have leading : Leading (written number ++ List.replicate number.exponent.toNat '0') := by
    refine ⟨.inr ⟨first, others ++ List.replicate number.exponent.toNat '0', ?_, notZero⟩,
      (digits_toDigits _).append (digits_replicate _)⟩
    rw [written, front, List.cons_append]
  have value : Nat.ofDigitChars 10
      (written number ++ List.replicate number.exponent.toNat '0' ++ ['0']) 0 =
        number.digits * tenTo (number.exponent.toNat + 1) := by
    rw [List.append_assoc, ← List.replicate_succ', Nat.ofDigitChars_append, value_written,
      Nat.ofDigitChars_replicate_zero, Nat.mul_comm]
    rfl
  have bounded := filled_counts spec whole short
  have reads := readsAs_pointed _ ['0'] leading ⟨by decide, digits_replicate 1⟩
    (Nat.le_trans (Nat.le_of_eq value) bounded)
  have inside : 0 < point number := by
    simp only [point]
    omega
  rw [value] at reads
  rw [positional_behind _ inside (by simp only [point]; omega), zeros]
  exact reads

/-- What stands behind the digits in scientific notation. -/
def exponentText (exponent : Int) : List Char :=
  'e' :: (if exponent < 0 then '-' else '+') :: Nat.toDigits 10 exponent.natAbs

theorem marks_json (exponent : Int) (digits : List Char) :
    (if exponent < 0 then NumberFormat.json.negativeExponentMark
      else NumberFormat.json.exponentMark).toList ++ digits =
        'e' :: (if exponent < 0 then '-' else '+') :: digits := by
  have negativeMark : NumberFormat.json.negativeExponentMark.toList = ['e', '-'] := by decide
  have mark : NumberFormat.json.exponentMark.toList = ['e', '+'] := by decide
  split_ifs
  · rw [negativeMark]
    rfl
  · rw [mark]
    rfl

theorem scientific_single (first : Char) (exponent : Int) :
    NumberFormat.json.scientific [first] exponent = [first] ++ exponentText exponent := by
  simp only [NumberFormat.scientific, List.append_assoc, marks_json]
  rfl

theorem scientific_several (first second : Char) (rest : List Char) (exponent : Int) :
    NumberFormat.json.scientific (first :: second :: rest) exponent =
      [first] ++ '.' :: (second :: rest ++ exponentText exponent) := by
  simp only [NumberFormat.scientific, List.append_assoc, marks_json]
  rfl

theorem exponent_toDigits {exponent : Int} (small : exponent.natAbs ≤ exponentLimit) :
    Exponent (if exponent < 0 then '-' else '+') (Nat.toDigits 10 exponent.natAbs) ∧
      exponentOf (if exponent < 0 then '-' else '+') (Nat.toDigits 10 exponent.natAbs) =
        exponent := by
  have value : Decimal.digitsValue (Nat.toDigits 10 exponent.natAbs) = exponent.natAbs :=
    Nat.ofDigitChars_ten_toDigits
  refine ⟨⟨?_, figures_toDigits _, Nat.le_trans (Nat.le_of_eq value) small⟩, ?_⟩
  · split_ifs
    · exact .inr rfl
    · exact .inl rfl
  · have distinct : ¬ '+' = '-' := by decide
    rw [exponentOf, value]
    by_cases negative : exponent < 0
    · rw [if_pos negative, if_pos rfl]
      omega
    · rw [if_neg negative, if_neg distinct]
      omega

theorem readsAs_scientific (spec : Decimal.Shortest magnitude number) :
    ReadsAs (NumberFormat.json.scientific (written number) (point number - 1)) number.digits
      number.exponent := by
  obtain ⟨first, others, front, notZero⟩ := exists_cons_toDigits spec.positive
  have small : (point number - 1).natAbs ≤ exponentLimit := by
    have few := length_written spec
    have low := spec.lowest
    have high := spec.highest
    have limit : 2000 ≤ exponentLimit := by decide
    simp only [point]
    omega
  obtain ⟨exponent, same⟩ := exponent_toDigits small
  have only : ∀ c ∈ first :: others, c.isDigit = true := front ▸ digits_toDigits number.digits
  have leading : Leading [first] := by
    refine ⟨.inr ⟨first, [], rfl, notZero⟩, fun c member => ?_⟩
    rw [List.mem_singleton.1 member]
    exact only first List.mem_cons_self
  have value := value_written number
  have fits := spec.few
  rw [written, front] at value
  rw [written, front]
  cases others with
  | nil =>
      have reads := readsAs_marked _ [first] _ leading exponent (by rw [value]; exact fits)
      have scale : point number - 1 = number.exponent := by
        rw [point, written, front, List.length_singleton]
        omega
      rw [value, same, scale] at reads
      rwa [scientific_single, scale]
  | cons second rest =>
      have figures : Figures (second :: rest) :=
        ⟨List.cons_ne_nil _ _, fun c member => only c (List.mem_cons_of_mem _ member)⟩
      have reads := readsAs_pointed_marked _ [first] (second :: rest) _ leading figures exponent
        (by rw [List.singleton_append, value]; exact fits)
      have scale : -((second :: rest).length : Int) + (point number - 1) = number.exponent := by
        simp only [point, written, front, List.length_cons]
        omega
      rw [same, scale] at reads
      rw [scientific_several, ← value]
      exact reads

theorem readsAs_decimal (spec : Decimal.Shortest magnitude number) :
    ReadsAs (NumberFormat.json.decimal number) (parts number).1 (parts number).2 := by
  have some := (length_written spec).1
  rw [NumberFormat.decimal, parts]
  change ReadsAs (if -5 < point number ∧ point number ≤ 16 then
      NumberFormat.json.positional (written number) (point number)
    else NumberFormat.json.scientific (written number) (point number - 1)) _ _
  by_cases whole : 0 ≤ number.exponent ∧ point number ≤ 16
  · have shown : -5 < point number ∧ point number ≤ 16 := by
      refine ⟨?_, whole.2⟩
      have natural := whole.1
      simp only [point]
      omega
    rw [if_pos whole, if_pos shown]
    exact readsAs_behind spec whole.1 whole.2
  · rw [if_neg whole]
    by_cases shown : -5 < point number ∧ point number ≤ 16
    · rw [if_pos shown]
      rcases Int.lt_or_le 0 (point number) with inside | front
      · exact readsAs_between spec inside (by omega)
      · exact readsAs_front spec front
    · rw [if_neg shown]
      exact readsAs_scientific spec

end Written

/-! ## Numbers -/

theorem not_blank {c : Char} (isDigit : c.isDigit = true) : isBlank c = false := by
  cases same : isBlank c with
  | false => rfl
  | true =>
      simp only [isBlank, Bool.or_eq_true, beq_iff_eq] at same
      rcases same with ((rfl | rfl) | rfl) | rfl <;> exact absurd isDigit (by decide)

theorem ne_minus {c : Char} (isDigit : c.isDigit = true) : c ≠ '-' := by
  rintro rfl
  exact absurd isDigit (by decide)

/-- The sign that a number is written with. -/
def signText (negative : Bool) : List Char := if negative then ['-'] else []

theorem answers_numeral {text : List Char} (negative : Bool)
    (reads : ReadsAs text significand scale) :
    Answers Shape.numeral (signText negative ++ text)
      ((scaled? significand scale).map fun x => .real (if negative then -x else x)) := by
  obtain ⟨first, others, rfl, isDigit⟩ := reads.begins
  intro bound blanks rest blank enough delimited
  have taken := reads.reads bound negative delimited
  have visible := not_blank isDigit
  have notMinus := ne_minus isDigit
  rw [List.cons_append, answer?_finish] at taken
  cases negative
  · simp [Shape.numeral, signText, blank.dropWhile, visible, begins, isDigit, read, notMinus,
      taken, Function.comp_def]
  · simp [Shape.numeral, signText, blank.dropWhile, isBlank, begins, read, taken,
      Function.comp_def]

/-- What is read where a number was written.  Nothing is written for infinities and NaN. -/
def reread? (x : Binary64) : Option Binary64 :=
  if x.isFinite then
    if x.isZero then some x
    else
      (scaled? (parts (Decimal.shortest .toEven x.magnitude)).1
        (parts (Decimal.shortest .toEven x.magnitude)).2).map
          fun y => if x.negative then -y else y
  else none

theorem real_finite {x : Binary64} (finite : x.isFinite = true) :
    Writer.real x = signText x.negative ++
      if x.isZero then ['0', '.', '0']
      else NumberFormat.json.decimal (Decimal.shortest .toEven x.magnitude) := by
  have below : x.magnitude < Binary64.infinityMagnitude := of_decide_eq_true finite
  have notNaN : x.isNaN = false := decide_eq_false (Nat.not_lt.2 (Nat.le_of_lt below))
  have notInfinite : x.isInfinite = false := beq_eq_false_iff_ne.2 (Nat.ne_of_lt below)
  have sign : (if x.negative then "-" else "").toList = signText x.negative := by
    cases x.negative <;> decide
  have ending : NumberFormat.json.wholeEnding.toList = ['.', '0'] := by decide
  rw [Writer.real, if_pos finite, NumberFormat.write]
  simp only [notNaN, notInfinite, Bool.false_eq_true, if_false]
  by_cases isZero : x.isZero = true
  · rw [if_pos isZero, if_pos isZero, String.toList_append, String.toList_append, sign, ending,
      List.append_assoc]
    rfl
  · rw [if_neg isZero, if_neg isZero, String.toList_append, sign, String.toList_ofList]
    rfl

theorem shortest_nonzero {x : Binary64} (finite : x.isFinite = true) (nonzero : ¬ x.isZero = true) :
    Decimal.Shortest x.magnitude (Decimal.shortest .toEven x.magnitude) := by
  obtain ⟨lower, top⟩ : ∃ lower, x.magnitude = lower + 1 :=
    Nat.exists_eq_succ_of_ne_zero fun none => nonzero (beq_iff_eq.2 none)
  have below : x.magnitude < Binary64.infinityMagnitude := of_decide_eq_true finite
  rw [top] at below ⊢
  exact Decimal.shortest_spec .toEven below

theorem readsAs_zero : ReadsAs ['0', '.', '0'] 0 (-1) :=
  readsAs_pointed ['0'] ['0'] leading_zero ⟨by decide, digits_replicate 1⟩ (by decide)

theorem scaled?_zero : scaled? 0 (-1) = some Binary64.zero := by
  have quotient : Binary64.ofNat 0 / Binary64.ofDecimal 1 ((-1 : Int).natAbs) = Binary64.zero := by
    decide +kernel
  rw [scaled?, if_pos (by decide), divideByPower, if_pos (by decide), quotient]

theorem neg_zero {x : Binary64} (zero : x.isZero = true) :
    (if x.negative then -Binary64.zero else Binary64.zero) = x := by
  obtain ⟨negative, magnitude, small⟩ := x
  obtain rfl : magnitude = 0 := beq_iff_eq.1 zero
  cases negative <;> rfl

end Numeral

namespace Shape

open Numeral

theorem answers_real (x : Binary64) : Answers real (Writer.real x) (reread? x) := by
  by_cases finite : x.isFinite = true
  · rw [real_finite finite, reread?, if_pos finite]
    by_cases zero : x.isZero = true
    · have answers := (answers_numeral x.negative readsAs_zero).map Numeral.toReal
      rw [if_pos zero, if_pos zero]
      rw [scaled?_zero] at answers
      simpa only [Shape.real, Option.map_some, Numeral.toReal, neg_zero zero] using answers
    · have reads := readsAs_decimal (shortest_nonzero finite zero)
      have answers := (answers_numeral x.negative reads).map Numeral.toReal
      rw [if_neg zero, if_neg zero]
      simpa only [Shape.real, Option.map_map, Function.comp_def, Numeral.toReal] using answers
  · rw [Writer.real, if_neg finite, reread?, if_neg finite]
    exact answers_real_null

theorem opens_digit {first : Char} (isDigit : first.isDigit = true) (others : List Char) :
    Opens (first :: others) := by
  refine ⟨first, others, rfl, not_blank isDigit, ?_, ?_⟩ <;>
    · rintro rfl
      exact absurd isDigit (by decide)

theorem opens_real (x : Binary64) : Opens (Writer.real x) := by
  by_cases finite : x.isFinite = true
  · have reads : ∃ significand scale, ReadsAs (if x.isZero then ['0', '.', '0']
        else NumberFormat.json.decimal (Decimal.shortest .toEven x.magnitude))
          significand scale := by
      by_cases zero : x.isZero = true
      · rw [if_pos zero]
        exact ⟨_, _, readsAs_zero⟩
      · rw [if_neg zero]
        exact ⟨_, _, readsAs_decimal (shortest_nonzero finite zero)⟩
    obtain ⟨-, -, ⟨first, others, text, isDigit⟩, -⟩ := reads
    rw [real_finite finite, text]
    cases x.negative
    · exact opens_digit isDigit others
    · exact ⟨'-', first :: others, rfl, rfl, by decide, by decide⟩
  · rw [Writer.real, if_neg finite]
    exact ⟨'n', ['u', 'l', 'l'], rfl, rfl, by decide, by decide⟩

theorem leading_toDigits (n : Nat) : Leading (Nat.toDigits 10 n) := by
  refine ⟨?_, digits_toDigits n⟩
  rcases Nat.eq_zero_or_pos n with rfl | positive
  · exact .inl rfl
  · exact .inr (exists_cons_toDigits positive)

theorem answers_countBelow {limit n : Nat} (below : n < limit) (fits : limit ≤ twoTo 64) :
    Answers (countBelow limit) (Writer.count n) (some n) := by
  obtain ⟨first, others, text, isDigit⟩ := (leading_toDigits n).begins []
  rw [List.append_nil] at text
  intro bound blanks rest blank enough delimited
  have value : Nat.ofDigitChars 10 (Nat.toDigits 10 n) 0 = n := Nat.ofDigitChars_ten_toDigits
  have bounded : n ≤ Binary64.countLimit := Nat.le_sub_one_of_lt (Nat.lt_of_lt_of_le below fits)
  have taken := answer?_unsigned bound false (leading_toDigits n)
    (ends_of_delimited delimited) (by rw [value]; exact bounded)
  have visible := not_blank isDigit
  have notMinus := ne_minus isDigit
  rw [value, answer?_tail_whole delimited, text, List.cons_append] at taken
  rw [Writer.count, text]
  simp [countBelow, numeral, count, blank.dropWhile, visible, begins, isDigit, Numeral.read,
    notMinus, taken, below]

end Shape

end CoSimulation.Json
