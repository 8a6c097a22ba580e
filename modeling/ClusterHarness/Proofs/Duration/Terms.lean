import ClusterHarness.Proofs.Duration.Sums
import Mathlib.Data.List.Induction

/-!
# The terms of a duration's text

The text of a duration is a sequence of terms with blanks between them.  A term is a number, perhaps
with a fraction, and the letters of a unit; blanks may stand anywhere in a number.
-/

namespace ClusterHarness

namespace Duration

/-! ## Characters -/

/-- A character is a digit, a blank, a letter of a unit or none of these. -/
inductive Class (c : Char) : Prop where
  | digit (is : c.isDigit = true) (notBlank : isBlank c = false) (notLetter : isUnitLetter c = false)
      (notPoint : c ≠ '.')
  | blank (is : isBlank c = true) (notDigit : c.isDigit = false) (notLetter : isUnitLetter c = false)
      (notPoint : c ≠ '.')
  | letter (is : isUnitLetter c = true) (notDigit : c.isDigit = false) (notBlank : isBlank c = false)
      (notPoint : c ≠ '.')
  | other (notDigit : c.isDigit = false) (notBlank : isBlank c = false)
      (notLetter : isUnitLetter c = false)

theorem isDigit_iff {c : Char} : c.isDigit = true ↔ 48 ≤ c.toNat ∧ c.toNat ≤ 57 := by
  rw [Char.isDigit, Bool.and_eq_true, decide_eq_true_iff, decide_eq_true_iff]
  exact Iff.rfl

theorem code_of_blank {c : Char} (blank : isBlank c = true) :
    c.toNat ≤ 32 ∨ c.toNat = 133 ∨ c.toNat = 160 ∨ 5760 ≤ c.toNat := by
  simp only [isBlank, Bool.or_eq_true, Bool.and_eq_true, decide_eq_true_eq] at blank
  omega

theorem code_of_letter {c : Char} (letter : isUnitLetter c = true) :
    65 ≤ c.toNat ∧ c.toNat ≤ 122 ∨ c.toNat = 181 := by
  simp only [isUnitLetter, Bool.or_eq_true, Bool.and_eq_true, decide_eq_true_eq] at letter
  rcases letter with (⟨least, most⟩ | ⟨least, most⟩) | rfl
  · exact Or.inl ⟨Nat.le_trans (by decide) least, most⟩
  · exact Or.inl ⟨least, Nat.le_trans most (by decide)⟩
  · exact Or.inr rfl

theorem class_of_char (c : Char) : Class c := by
  have point : c = '.' → c.toNat = 46 := by
    rintro rfl
    rfl
  have digits := @isDigit_iff c
  have blanks := @code_of_blank c
  have letters := @code_of_letter c
  by_cases digit : c.isDigit = true
  · refine .digit digit (Bool.eq_false_iff.mpr ?_) (Bool.eq_false_iff.mpr ?_) ?_ <;>
      (intro other; grind)
  · by_cases blank : isBlank c = true
    · refine .blank blank (Bool.eq_false_iff.mpr digit) (Bool.eq_false_iff.mpr ?_) ?_ <;>
        (intro other; grind)
    · by_cases letter : isUnitLetter c = true
      · refine .letter letter (Bool.eq_false_iff.mpr digit) (Bool.eq_false_iff.mpr blank) ?_
        intro other
        grind
      · exact .other (Bool.eq_false_iff.mpr digit) (Bool.eq_false_iff.mpr blank)
          (Bool.eq_false_iff.mpr letter)

theorem not_digit_of_blank {c : Char} (blank : isBlank c = true) : c.isDigit = false := by
  cases class_of_char c with
  | digit _ notBlank => cases blank.symm.trans notBlank
  | blank _ notDigit => exact notDigit
  | letter _ notDigit => exact notDigit
  | other notDigit => exact notDigit

/-! ## Numbers and terms -/

def digitsValue (chars : List Char) : Nat :=
  (chars.filter (·.isDigit)).foldl (fun number c => number * 10 + digitOf c) 0

def digitsScale (chars : List Char) : Nat := Nat.pow 10 (chars.countP (·.isDigit))

/-- The characters are digits and blanks. -/
def Loose (chars : List Char) : Prop := ∀ c ∈ chars, c.isDigit = true ∨ isBlank c = true

section Digits

variable {c : Char}

theorem digitsValue_singleton (digit : c.isDigit = true) : digitsValue [c] = digitOf c := by
  simp [digitsValue, digit]

theorem digitsValue_concat_digit (chars : List Char) (digit : c.isDigit = true) :
    digitsValue (chars ++ [c]) = digitsValue chars * 10 + digitOf c := by
  simp [digitsValue, digit]

theorem digitsScale_concat_digit (chars : List Char) (digit : c.isDigit = true) :
    digitsScale (chars ++ [c]) = digitsScale chars * 10 := by
  simp [digitsScale, digit, Nat.pow_succ]

theorem digitsValue_concat_blank (chars : List Char) (blank : c.isDigit = false) :
    digitsValue (chars ++ [c]) = digitsValue chars := by
  simp [digitsValue, blank]

theorem digitsScale_concat_blank (chars : List Char) (blank : c.isDigit = false) :
    digitsScale (chars ++ [c]) = digitsScale chars := by
  simp [digitsScale, blank]

theorem loose_concat {chars : List Char} :
    Loose (chars ++ [c]) ↔ Loose chars ∧ (c.isDigit = true ∨ isBlank c = true) := by
  simp [Loose, or_imp, forall_and]

theorem digitOf_lt (digit : c.isDigit = true) : digitOf c < 10 := by
  have := isDigit_iff.mp digit
  have : digitOf c = c.toNat - 48 := rfl
  omega

theorem digitsValue_lt_digitsScale (chars : List Char) : digitsValue chars < digitsScale chars := by
  induction chars using List.reverseRecOn with
  | nil => decide
  | append_singleton chars c ih =>
      by_cases digit : c.isDigit = true
      · rw [digitsValue_concat_digit chars digit, digitsScale_concat_digit chars digit]
        have := digitOf_lt digit
        omega
      · have blank := Bool.eq_false_iff.mpr digit
        rwa [digitsValue_concat_blank chars blank, digitsScale_concat_blank chars blank]

end Digits

/-- The characters of a number: a digit, then digits and blanks. -/
structure Number (chars : List Char) : Prop where
  starts : ∃ c ∈ chars.head?, c.isDigit = true
  loose : Loose chars
  fits : digitsValue chars < Nat.pow 2 64

theorem Number.ne_nil {chars : List Char} (number : Number chars) : chars ≠ [] := by
  rintro rfl
  obtain ⟨_, none, _⟩ := number.starts
  cases none

/-- The characters of a fraction, behind the point. -/
structure Places (chars : List Char) : Prop where
  loose : Loose chars
  fits : digitsScale chars < Nat.pow 2 64

theorem Places.nil : Places [] := ⟨nofun, by decide⟩

/-- A number, perhaps with a fraction, and the letters of its unit. -/
structure Term where
  number : Nat
  fraction : Option (Nat × Nat)
  letters : List Char

/-- The characters of a number, perhaps with a fraction. -/
inductive Amount : List Char → Nat → Option (Nat × Nat) → Prop where
  | whole {chars : List Char} (number : Number chars) : Amount chars (digitsValue chars) none
  | point {chars places : List Char} (number : Number chars) (fraction : Places places)
      (some : digitsScale places ≠ 1) :
      Amount (chars ++ '.' :: places) (digitsValue chars)
        (.some (digitsValue places, digitsScale places))

inductive Term.Spelled (t : Term) : List Char → Prop where
  | mk {amount : List Char} (spells : Amount amount t.number t.fraction) (some : t.letters ≠ [])
      (letters : ∀ c ∈ t.letters, isUnitLetter c = true) : t.Spelled (amount ++ t.letters)

def Term.addTo (t : Term) (total : Nat) : Except ReadError Nat :=
  addUnit total t.number t.fraction t.letters

/-- The characters spell terms, with blanks between them, that add up to a total. -/
inductive Sum : List Char → Nat → Prop where
  | empty : Sum [] 0
  | blank {chars : List Char} {total : Nat} {c : Char} (sum : Sum chars total)
      (blank : isBlank c = true) : Sum (chars ++ [c]) total
  | term {chars spelled : List Char} {total more : Nat} {t : Term} (sum : Sum chars total)
      (spells : t.Spelled spelled) (added : t.addTo total = .ok more) : Sum (chars ++ spelled) more

theorem Number.singleton {c : Char} (digit : c.isDigit = true) : Number [c] where
  starts := ⟨c, rfl, digit⟩
  loose d member := by
    cases List.mem_singleton.mp member
    exact Or.inl digit
  fits := by
    rw [digitsValue_singleton digit]
    exact Nat.lt_trans (digitOf_lt digit) (by decide)

section Concat

variable {chars : List Char} {c : Char}

theorem digitsValue_le_concat : digitsValue chars ≤ digitsValue (chars ++ [c]) := by
  by_cases digit : c.isDigit = true
  · rw [digitsValue_concat_digit chars digit]
    omega
  · exact Nat.le_of_eq (digitsValue_concat_blank chars (Bool.eq_false_iff.mpr digit)).symm

/-- A number goes on with digits and blanks as long as its value fits. -/
theorem number_concat (some : chars ≠ []) :
    Number (chars ++ [c]) ↔ Number chars ∧ (c.isDigit = true ∨ isBlank c = true) ∧
      digitsValue (chars ++ [c]) < Nat.pow 2 64 := by
  have head : (chars ++ [c]).head? = chars.head? := by
    cases chars with
    | nil => exact absurd rfl some
    | cons => rfl
  constructor
  · rintro ⟨starts, loose, fits⟩
    obtain ⟨loose, own⟩ := loose_concat.mp loose
    exact ⟨⟨head ▸ starts, loose, Nat.lt_of_le_of_lt digitsValue_le_concat fits⟩, own, fits⟩
  · rintro ⟨number, own, fits⟩
    exact ⟨head.symm ▸ number.starts, loose_concat.mpr ⟨number.loose, own⟩, fits⟩

theorem places_concat :
    Places (chars ++ [c]) ↔ Places chars ∧ (c.isDigit = true ∨ isBlank c = true) ∧
      digitsScale (chars ++ [c]) < Nat.pow 2 64 := by
  have least : digitsScale chars ≤ digitsScale (chars ++ [c]) :=
    Nat.pow_le_pow_right (by decide) (by simp)
  constructor
  · rintro ⟨loose, fits⟩
    obtain ⟨loose, own⟩ := loose_concat.mp loose
    exact ⟨⟨loose, Nat.lt_of_le_of_lt least fits⟩, own, fits⟩
  · rintro ⟨places, own, fits⟩
    exact ⟨loose_concat.mpr ⟨places.loose, own⟩, fits⟩

theorem Term.Spelled.first {number : Nat} {fraction : Option (Nat × Nat)}
    (amount : Amount chars number fraction) (letter : isUnitLetter c = true) :
    Term.Spelled ⟨number, fraction, [c]⟩ (chars ++ [c]) := by
  refine ⟨amount, nofun, ?_⟩
  intro d member
  cases List.mem_singleton.mp member
  exact letter

theorem Term.Spelled.concat {t : Term} (spelled : t.Spelled chars)
    (letter : isUnitLetter c = true) :
    Term.Spelled ⟨t.number, t.fraction, t.letters ++ [c]⟩ (chars ++ [c]) := by
  obtain ⟨amount, some, letters⟩ := spelled
  rw [List.append_assoc]
  refine ⟨amount, by simp, ?_⟩
  intro d member
  rcases List.mem_append.mp member with earlier | last
  · exact letters d earlier
  · cases List.mem_singleton.mp last
    exact letter

end Concat

theorem Term.Spelled.exists_letter {t : Term} {chars : List Char} (spelled : t.Spelled chars) :
    ∃ c ∈ chars, isUnitLetter c = true := by
  obtain ⟨_, some, each⟩ := spelled
  obtain ⟨c, member⟩ := List.exists_mem_of_ne_nil _ some
  exact ⟨c, List.mem_append_right _ member, each c member⟩

/-- A term of the text, before a blank, another number or the end, brims over the sum of the terms
before it. -/
def Overruns (text : List Char) : Prop :=
  ∃ before spelled rest total t, before ++ spelled ++ rest = text ∧ Sum before total ∧
    Term.Spelled t spelled ∧ (∀ c ∈ rest.head?, c.isDigit = true ∨ isBlank c = true) ∧
    UnitBrims total t.number (String.ofList t.letters) t.fraction

end Duration

end ClusterHarness
