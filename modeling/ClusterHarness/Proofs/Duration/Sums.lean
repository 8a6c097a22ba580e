import ClusterHarness.Duration.Text

/-!
# Sums that are too long for a duration

The seconds of a sum are checked whenever something is added to them, but a full second of
nanoseconds is carried without a check.  So there is one sum that is neither a duration nor refused
as too large: the one that comes to 2⁶⁴ seconds exactly, by nanoseconds that make up one second at
most.
-/

namespace ClusterHarness

namespace Duration

theorem bind_eq_error {ε α β : Type} {x : Except ε α} {f : α → Except ε β} {e : ε} :
    x >>= f = .error e ↔ x = .error e ∨ ∃ a, x = .ok a ∧ f a = .error e := by
  cases x <;> simp [bind, Except.bind]

theorem bind_eq_ok {ε α β : Type} {x : Except ε α} {f : α → Except ε β} {b : β} :
    x >>= f = .ok b ↔ ∃ a, x = .ok a ∧ f a = .ok b := by
  cases x <;> simp [bind, Except.bind]

theorem throw_eq_error {ε α : Type} {e f : ε} : (throw e : Except ε α) = .error f ↔ e = f :=
  ⟨fun | rfl => rfl, congrArg _⟩

/-! ## Checked sums -/

section Checked

variable {β : Type} {n : Nat} {f : Nat → Except ReadError β}

theorem checked_bind_eq_ok {b : β} :
    checked n >>= f = .ok b ↔ n < Nat.pow 2 64 ∧ f n = .ok b := by
  unfold checked
  split <;> simp [*, bind, Except.bind]

theorem checked_bind_eq_tooLong :
    checked n >>= f = .error .tooLong ↔ n < Nat.pow 2 64 ∧ f n = .error .tooLong := by
  unfold checked
  split <;> simp [*, bind, Except.bind]

end Checked

theorem evenPart_ne_tooLong (part whole size : Nat) :
    evenPart part whole size ≠ .error .tooLong := by
  unfold evenPart
  rw [ne_eq, checked_bind_eq_tooLong]
  rintro ⟨_, odd⟩
  split at odd <;> cases odd

theorem evenPart_eq_ok {part whole size nanos : Nat} :
    evenPart part whole size = .ok nanos ↔
      part * size < Nat.pow 2 64 ∧ part * size % whole = 0 ∧ part * size / whole = nanos := by
  unfold evenPart
  rw [checked_bind_eq_ok]
  split <;> simp [*]

/-! ## Adding seconds and nanoseconds -/

/-- The last step of a sum: seconds are added with a check, nanoseconds are carried without one. -/
theorem carried_eq_tooLong {whole addSecs nanos : Nat} :
    (do
      let addSecs ← checked addSecs
      let whole ← checked (whole + addSecs)
      if whole + nanos / nanosPerSecond < Nat.pow 2 64 then
        Except.ok (whole * nanosPerSecond + nanos)
      else .error ReadError.tooLong) = .error .tooLong ↔
      whole + addSecs < Nat.pow 2 64 ∧
        Nat.pow 2 64 ≤ whole + addSecs + nanos / nanosPerSecond := by
  rw [checked_bind_eq_tooLong, checked_bind_eq_tooLong]
  constructor
  · rintro ⟨_, fits, rest⟩
    split at rest
    · cases rest
    · next reached => exact ⟨fits, Nat.le_of_not_lt reached⟩
  · rintro ⟨fits, reached⟩
    exact ⟨by omega, fits, if_neg (Nat.not_lt.mpr reached)⟩

theorem accumulate_eq_tooLong {total addSecs addNanos : Nat} :
    accumulate total addSecs addNanos = .error .tooLong ↔
      subsecNanos total + addNanos = nanosPerSecond ∧
        secs total + addSecs + 1 = Nat.pow 2 64 := by
  unfold accumulate
  rw [checked_bind_eq_tooLong]
  constructor
  · rintro ⟨_, rest⟩
    by_cases passed : nanosPerSecond < subsecNanos total + addNanos
    · -- what is left of a carried sum is less than a second
      rw [if_pos passed] at rest
      obtain ⟨fits, reached⟩ := carried_eq_tooLong.mp rest
      rw [Nat.div_eq_of_lt (Nat.mod_lt _ (by decide))] at reached
      omega
    · rw [if_neg passed] at rest
      obtain ⟨fits, reached⟩ := carried_eq_tooLong.mp rest
      have most : (subsecNanos total + addNanos) / nanosPerSecond ≤ 1 :=
        Nat.div_le_of_le_mul (by omega)
      have least : nanosPerSecond ≤ subsecNanos total + addNanos := by
        apply Nat.le_of_not_lt
        intro short
        rw [Nat.div_eq_of_lt short] at reached
        omega
      exact ⟨by omega, by omega⟩
  · rintro ⟨full, seconds⟩
    refine ⟨by rw [full]; decide, ?_⟩
    rw [full, if_neg (Nat.lt_irrefl _)]
    refine carried_eq_tooLong.mpr ⟨by omega, ?_⟩
    rw [Nat.div_self (by decide)]
    omega

/-- Nanoseconds, a second of them at most, that bring a duration to 2⁶⁴ seconds. -/
def Brims (total nanos : Nat) : Prop :=
  0 < nanos ∧ nanos ≤ nanosPerSecond ∧ total + nanos = max + 1

theorem accumulate_nanos_eq_tooLong {total nanos : Nat} :
    accumulate total 0 nanos = .error .tooLong ↔ Brims total nanos := by
  rw [accumulate_eq_tooLong]
  unfold Brims subsecNanos secs max nanosPerSecond
  have : Nat.pow 2 64 = 18446744073709551616 := rfl
  omega

theorem accumulate_secs_ne_tooLong (total addSecs : Nat) :
    accumulate total addSecs 0 ≠ .error .tooLong := by
  intro tooLong
  have full := (accumulate_eq_tooLong.mp tooLong).1
  unfold subsecNanos nanosPerSecond at full
  omega

/-! ## Adding a number of a unit -/

/-- Adds the whole part of a number of a unit. -/
def addWhole (total number : Nat) : Unit → Except ReadError Nat
  | .nanos size => do accumulate total 0 (← checked (number * size))
  | .secs size => do accumulate total (← checked (number * size)) 0

/-- Adds the fraction of a number of a unit. -/
def addPart (total : Nat) : Option (Nat × Nat) → Grain → Except ReadError Nat
  | none, _ => .ok total
  | some _, .none => .error .numberTooLarge
  | some (part, whole), .nanos size => do accumulate total 0 (← evenPart part whole size)
  | some (part, whole), .secs size => do accumulate total (← evenPart part whole size) 0

theorem addUnit_nil (total number : Nat) (fraction : Option (Nat × Nat)) :
    addUnit total number fraction [] = .error (.unitNeeded number) :=
  rfl

theorem unit?_ofList_nil : unit? (String.ofList []) = none := by decide

theorem addUnit_of_unit? {letters : List Char} {unit : Unit} {grain : Grain}
    (known : unit? (String.ofList letters) = some (unit, grain)) (total number : Nat)
    (fraction : Option (Nat × Nat)) :
    addUnit total number fraction letters =
      addWhole total number unit >>= fun sum => addPart sum fraction grain := by
  have named : letters.isEmpty = false := by
    cases letters with
    | nil => cases unit?_ofList_nil.symm.trans known
    | cons => rfl
  unfold addUnit
  dsimp only
  rw [named, known, if_neg Bool.false_ne_true]
  cases unit <;> obtain _ | ⟨_, _⟩ := fraction <;> cases grain <;>
    simp only [addWhole, bind_assoc] <;> rfl

theorem addWhole_eq_tooLong {total number : Nat} {unit : Unit} :
    addWhole total number unit = .error .tooLong ↔
      ∃ size, unit = .nanos size ∧ Brims total (number * size) := by
  cases unit with
  | nanos size =>
      rw [addWhole, checked_bind_eq_tooLong, accumulate_nanos_eq_tooLong]
      constructor
      · rintro ⟨_, brims⟩
        exact ⟨size, rfl, brims⟩
      · rintro ⟨_, ⟨⟩, brims⟩
        exact ⟨Nat.lt_of_le_of_lt brims.2.1 (by decide), brims⟩
  | secs size =>
      rw [addWhole, checked_bind_eq_tooLong]
      constructor
      · rintro ⟨_, tooLong⟩
        exact absurd tooLong (accumulate_secs_ne_tooLong _ _)
      · nofun

theorem addPart_eq_tooLong {total : Nat} {fraction : Option (Nat × Nat)} {grain : Grain} :
    addPart total fraction grain = .error .tooLong ↔
      ∃ part whole size nanos, fraction = some (part, whole) ∧ grain = .nanos size ∧
        evenPart part whole size = .ok nanos ∧ Brims total nanos := by
  constructor
  · intro tooLong
    obtain _ | ⟨part, whole⟩ := fraction
    · cases tooLong
    · cases grain with
      | none => cases tooLong
      | nanos size =>
          rcases bind_eq_error.mp tooLong with odd | ⟨nanos, even, tooLong⟩
          · exact absurd odd (evenPart_ne_tooLong _ _ _)
          · exact ⟨part, whole, size, nanos, rfl, rfl, even,
              accumulate_nanos_eq_tooLong.mp tooLong⟩
      | secs size =>
          rcases bind_eq_error.mp tooLong with odd | ⟨seconds, _, tooLong⟩
          · exact absurd odd (evenPart_ne_tooLong _ _ _)
          · exact absurd tooLong (accumulate_secs_ne_tooLong _ _)
  · rintro ⟨part, whole, size, nanos, rfl, rfl, even, brims⟩
    exact bind_eq_error.mpr (Or.inr ⟨nanos, even, accumulate_nanos_eq_tooLong.mpr brims⟩)

/-- A number of a unit brims over a total: its whole part does, or its fraction does on top of the
whole part. -/
inductive UnitBrims (total number : Nat) (name : String) : Option (Nat × Nat) → Prop where
  | whole {size : Nat} {grain : Grain} {fraction : Option (Nat × Nat)}
      (known : unit? name = some (.nanos size, grain)) (brims : Brims total (number * size)) :
      UnitBrims total number name fraction
  | part {unit : Unit} {size sum part whole : Nat}
      (known : unit? name = some (unit, .nanos size)) (added : addWhole total number unit = .ok sum)
      (fits : part * size < Nat.pow 2 64) (even : part * size % whole = 0)
      (brims : Brims sum (part * size / whole)) : UnitBrims total number name (some (part, whole))

theorem addUnit_eq_tooLong {total number : Nat} {fraction : Option (Nat × Nat)}
    {letters : List Char} :
    addUnit total number fraction letters = .error .tooLong ↔
      UnitBrims total number (String.ofList letters) fraction := by
  constructor
  · intro tooLong
    cases known : unit? (String.ofList letters) with
    | none =>
        unfold addUnit at tooLong
        dsimp only at tooLong
        rw [known] at tooLong
        cases letters <;> cases tooLong
    | some entry =>
        obtain ⟨unit, grain⟩ := entry
        rw [addUnit_of_unit? known, bind_eq_error] at tooLong
        rcases tooLong with tooLong | ⟨sum, added, tooLong⟩
        · obtain ⟨size, rfl, brims⟩ := addWhole_eq_tooLong.mp tooLong
          exact .whole known brims
        · obtain ⟨part, whole, size, nanos, rfl, rfl, even, brims⟩ :=
            addPart_eq_tooLong.mp tooLong
          obtain ⟨fits, divides, rfl⟩ := evenPart_eq_ok.mp even
          exact .part known added fits divides brims
  · intro brims
    cases brims with
    | whole known brims =>
        rw [addUnit_of_unit? known]
        exact bind_eq_error.mpr (Or.inl (addWhole_eq_tooLong.mpr ⟨_, rfl, brims⟩))
    | part known added fits even brims =>
        rw [addUnit_of_unit? known]
        refine bind_eq_error.mpr (Or.inr ⟨_, added, addPart_eq_tooLong.mpr ?_⟩)
        exact ⟨_, _, _, _, rfl, rfl, evenPart_eq_ok.mpr ⟨fits, even, rfl⟩, brims⟩

end Duration

end ClusterHarness
