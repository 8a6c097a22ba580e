import ClusterHarness.Proofs.Duration.Terms

/-!
# Reading the text of a duration

The reader finds the terms of a text from left to right and adds them up.  What it has read at any
place is a sequence of terms and perhaps the beginning of another one, and it gets to the end of
whatever terms add up.  So a text is too long for a duration exactly if one of its terms brims over
the sum of those before.
-/

namespace ClusterHarness

namespace Duration

/-! ## What one character does -/

section Step

variable {total offset : Nat} {c : Char} {p : Progress}

theorem step_seeking_eq_ok {since : Nat} :
    Progress.step ⟨total, offset, .seeking since⟩ c = .ok p ↔
      (c.isDigit = true ∧ ⟨total, offset + c.utf8Size, .whole (digitOf c)⟩ = p) ∨
        isBlank c = true ∧ ⟨total, offset + c.utf8Size, .seeking since⟩ = p := by
  unfold Progress.step
  cases class_of_char c <;> simp [*]

theorem step_whole_eq_ok {number : Nat} :
    Progress.step ⟨total, offset, .whole number⟩ c = .ok p ↔
      (c.isDigit = true ∧ number * 10 + digitOf c < Nat.pow 2 64 ∧
        ⟨total, offset + c.utf8Size, .whole (number * 10 + digitOf c)⟩ = p) ∨
      (isBlank c = true ∧ ⟨total, offset + c.utf8Size, .whole number⟩ = p) ∨
      (isUnitLetter c = true ∧ ⟨total, offset + c.utf8Size, .unit number none [c]⟩ = p) ∨
        c = '.' ∧ ⟨total, offset + c.utf8Size, .fraction number 0 1 offset⟩ = p := by
  unfold Progress.step
  cases class_of_char c with
  | digit => simp [*, checked_bind_eq_ok]
  | blank => simp [*]
  | letter => simp [*]
  | other =>
      by_cases point : c = '.'
      · subst point
        simp [*]
      · simp [*]

theorem step_fraction_eq_ok {number part whole since : Nat} :
    Progress.step ⟨total, offset, .fraction number part whole since⟩ c = .ok p ↔
      (c.isDigit = true ∧ whole * 10 < Nat.pow 2 64 ∧ part * 10 + digitOf c < Nat.pow 2 64 ∧
        ⟨total, offset + c.utf8Size,
          .fraction number (part * 10 + digitOf c) (whole * 10) (offset + c.utf8Size)⟩ = p) ∨
      (isBlank c = true ∧ ⟨total, offset + c.utf8Size,
        .fraction number part whole (offset + c.utf8Size)⟩ = p) ∨
      isUnitLetter c = true ∧ whole ≠ 1 ∧
        ⟨total, offset + c.utf8Size, .unit number (some (part, whole)) [c]⟩ = p := by
  unfold Progress.step
  cases class_of_char c with
  | digit => simp [*, checked_bind_eq_ok]
  | blank => simp [*]
  | letter => by_cases empty : whole = 1 <;> simp [*]
  | other => simp [*]

theorem step_unit_eq_ok {number : Nat} {fraction : Option (Nat × Nat)} {letters : List Char} :
    Progress.step ⟨total, offset, .unit number fraction letters⟩ c = .ok p ↔
      (c.isDigit = true ∧ ∃ sum, addUnit total number fraction letters.reverse = .ok sum ∧
        ⟨sum, offset + c.utf8Size, .whole (digitOf c)⟩ = p) ∨
      (isBlank c = true ∧ ∃ sum, addUnit total number fraction letters.reverse = .ok sum ∧
        ⟨sum, offset + c.utf8Size, .seeking (offset + c.utf8Size)⟩ = p) ∨
      isUnitLetter c = true ∧
        ⟨total, offset + c.utf8Size, .unit number fraction (c :: letters)⟩ = p := by
  unfold Progress.step
  cases class_of_char c <;> simp [*, bind_eq_ok]

end Step

/-! ## What the reader has found -/

/-- What the stage of a reader says of the characters since the last term. -/
inductive Stage.Of : Stage → List Char → Prop where
  | seeking {since : Nat} : Of (.seeking since) []
  | whole {chars : List Char} (number : Number chars) : Of (.whole (digitsValue chars)) chars
  | fraction {chars places : List Char} {since : Nat} (number : Number chars)
      (fraction : Places places) :
      Of (.fraction (digitsValue chars) (digitsValue places) (digitsScale places) since)
        (chars ++ '.' :: places)
  | unit {chars : List Char} {t : Term} (spelled : t.Spelled chars) :
      Of (.unit t.number t.fraction t.letters.reverse) chars

/-- What a reader has read: terms that add up to its total, and then what its stage says. -/
def Progress.Of (p : Progress) (chars : List Char) : Prop :=
  ∃ before own, before ++ own = chars ∧ Sum before p.total ∧ p.stage.Of own

/-- A digit begins a number. -/
theorem Stage.Of.digit {c : Char} (digit : c.isDigit = true) : Stage.Of (.whole (digitOf c)) [c] := by
  rw [← digitsValue_singleton digit]
  exact .whole (.singleton digit)

/-- Whatever was read, one more character is read as the grammar has it. -/
theorem Progress.Of.step {p q : Progress} {chars : List Char} {c : Char} (read : p.Of chars)
    (stepped : p.step c = .ok q) : q.Of (chars ++ [c]) := by
  obtain ⟨total, offset, stage⟩ := p
  obtain ⟨before, own, rfl, sum, found⟩ := read
  rw [List.append_assoc]
  cases found with
  | seeking =>
      rcases step_seeking_eq_ok.mp stepped with ⟨digit, rfl⟩ | ⟨blank, rfl⟩
      · exact ⟨before, [c], rfl, sum, .digit digit⟩
      · exact ⟨before ++ [c], [], by simp, sum.blank blank, .seeking⟩
  | whole number =>
      refine ⟨before, own ++ [c], rfl, ?_⟩
      rcases step_whole_eq_ok.mp stepped with
        ⟨digit, fits, rfl⟩ | ⟨blank, rfl⟩ | ⟨letter, rfl⟩ | ⟨rfl, rfl⟩
      · rw [← digitsValue_concat_digit own digit] at fits ⊢
        exact ⟨sum, .whole ((number_concat number.ne_nil).mpr ⟨number, Or.inl digit, fits⟩)⟩
      · have same := digitsValue_concat_blank own (not_digit_of_blank blank)
        have fits : digitsValue (own ++ [c]) < Nat.pow 2 64 := same ▸ number.fits
        rw [← same]
        exact ⟨sum, .whole ((number_concat number.ne_nil).mpr ⟨number, Or.inr blank, fits⟩)⟩
      · exact ⟨sum, .unit (.first (.whole number) letter)⟩
      · exact ⟨sum, .fraction number .nil⟩
  | @fraction first places since number fraction =>
      refine ⟨before, _, rfl, ?_⟩
      rw [List.append_assoc, List.cons_append]
      rcases step_fraction_eq_ok.mp stepped with
        ⟨digit, fits, _, rfl⟩ | ⟨blank, rfl⟩ | ⟨letter, some, rfl⟩
      · rw [← digitsValue_concat_digit places digit, ← digitsScale_concat_digit places digit] at *
        exact ⟨sum, .fraction number (places_concat.mpr ⟨fraction, Or.inl digit, fits⟩)⟩
      · have same := digitsScale_concat_blank places (not_digit_of_blank blank)
        have fits : digitsScale (places ++ [c]) < Nat.pow 2 64 := same ▸ fraction.fits
        rw [← same, ← digitsValue_concat_blank places (not_digit_of_blank blank)]
        exact ⟨sum, .fraction number (places_concat.mpr ⟨fraction, Or.inr blank, fits⟩)⟩
      · rw [← List.cons_append, ← List.append_assoc]
        exact ⟨sum, .unit (.first (.point number fraction some) letter)⟩
  | @unit own t spelled =>
      rcases step_unit_eq_ok.mp stepped with
        ⟨digit, more, added, rfl⟩ | ⟨blank, more, added, rfl⟩ | ⟨letter, rfl⟩
      · rw [List.reverse_reverse] at added
        rw [← List.append_assoc]
        exact ⟨before ++ own, [c], rfl, sum.term spelled added, .digit digit⟩
      · rw [List.reverse_reverse] at added
        exact ⟨before ++ own ++ [c], [], by simp, (sum.term spelled added).blank blank, .seeking⟩
      · refine ⟨before, _, rfl, sum, ?_⟩
        have extended := Stage.Of.unit (spelled.concat letter)
        rwa [List.reverse_concat] at extended

/-! ## Whole texts -/

/-- A reader gets from one place to another by reading the characters. -/
def Reads (p : Progress) (chars : List Char) (q : Progress) : Prop :=
  chars.foldlM Progress.step p = .ok q

theorem reads_nil (p : Progress) : Reads p [] p := rfl

theorem reads_append {p q : Progress} {first second : List Char} :
    Reads p (first ++ second) q ↔ ∃ r, Reads p first r ∧ Reads r second q := by
  unfold Reads
  rw [List.foldlM_append, bind_eq_ok]

theorem reads_concat {p q : Progress} {chars : List Char} {c : Char} :
    Reads p (chars ++ [c]) q ↔ ∃ r, Reads p chars r ∧ r.step c = .ok q := by
  rw [reads_append]
  simp [Reads]

def Progress.start : Progress := ⟨0, 0, .seeking 0⟩

theorem Progress.of_reads {p : Progress} {text : List Char} (read : Reads .start text p) :
    p.Of text := by
  induction text using List.reverseRecOn generalizing p with
  | nil =>
      cases read
      exact ⟨[], [], rfl, .empty, .seeking⟩
  | append_singleton text c ih =>
      obtain ⟨q, earlier, stepped⟩ := reads_concat.mp read
      exact (ih earlier).step stepped

/-- The place after terms: no other one has begun, or the letters of the last one are still being
read. -/
inductive Progress.Settled : Progress → Nat → Prop where
  | seeking {total offset since : Nat} : Settled ⟨total, offset, .seeking since⟩ total
  | unit {total offset more : Nat} {t : Term} (added : t.addTo total = .ok more) :
      Settled ⟨total, offset, .unit t.number t.fraction t.letters.reverse⟩ more

section Settled

variable {p : Progress} {total : Nat} (settled : p.Settled total)

include settled

theorem Progress.Settled.digit {c : Char} (digit : c.isDigit = true) :
    ∃ offset, p.step c = .ok ⟨total, offset, .whole (digitOf c)⟩ := by
  cases settled with
  | seeking => exact ⟨_, step_seeking_eq_ok.mpr (Or.inl ⟨digit, rfl⟩)⟩
  | unit added =>
      refine ⟨_, step_unit_eq_ok.mpr (Or.inl ⟨digit, total, ?_, rfl⟩)⟩
      rwa [List.reverse_reverse]

theorem Progress.Settled.blank {c : Char} (blank : isBlank c = true) :
    ∃ q, p.step c = .ok q ∧ q.Settled total := by
  cases settled with
  | seeking => exact ⟨_, step_seeking_eq_ok.mpr (Or.inr ⟨blank, rfl⟩), .seeking⟩
  | unit added =>
      refine ⟨_, step_unit_eq_ok.mpr (Or.inr (Or.inl ⟨blank, total, ?_, rfl⟩)), .seeking⟩
      rwa [List.reverse_reverse]

theorem Number.reads {chars : List Char} (number : Number chars) :
    ∃ offset, Reads p chars ⟨total, offset, .whole (digitsValue chars)⟩ := by
  induction chars using List.reverseRecOn with
  | nil => exact absurd rfl number.ne_nil
  | append_singleton chars c ih =>
      by_cases first : chars = []
      · subst first
        obtain ⟨_, ⟨⟩, digit⟩ := number.starts
        obtain ⟨offset, stepped⟩ := settled.digit digit
        refine ⟨offset, reads_concat.mpr ⟨p, reads_nil p, ?_⟩⟩
        rw [stepped, List.nil_append, digitsValue_singleton digit]
      · obtain ⟨earlier, own, fits⟩ := (number_concat first).mp number
        obtain ⟨offset, read⟩ := ih earlier
        rcases own with digit | blank
        · rw [digitsValue_concat_digit chars digit] at fits ⊢
          exact ⟨_, reads_concat.mpr ⟨_, read, step_whole_eq_ok.mpr (Or.inl ⟨digit, fits, rfl⟩)⟩⟩
        · rw [digitsValue_concat_blank chars (not_digit_of_blank blank)]
          exact ⟨_, reads_concat.mpr
            ⟨_, read, step_whole_eq_ok.mpr (Or.inr (Or.inl ⟨blank, rfl⟩))⟩⟩

end Settled

theorem Places.reads {places : List Char} (fraction : Places places)
    (total offset number since : Nat) :
    ∃ offset' since', Reads ⟨total, offset, .fraction number 0 1 since⟩ places
      ⟨total, offset', .fraction number (digitsValue places) (digitsScale places) since'⟩ := by
  induction places using List.reverseRecOn with
  | nil => exact ⟨offset, since, reads_nil _⟩
  | append_singleton places c ih =>
      obtain ⟨earlier, own, fits⟩ := places_concat.mp fraction
      obtain ⟨_, _, read⟩ := ih earlier
      rcases own with digit | blank
      · have less := digitsValue_lt_digitsScale (places ++ [c])
        rw [digitsValue_concat_digit places digit, digitsScale_concat_digit places digit] at *
        exact ⟨_, _, reads_concat.mpr ⟨_, read, step_fraction_eq_ok.mpr
          (Or.inl ⟨digit, fits, Nat.lt_trans less fits, rfl⟩)⟩⟩
      · have same := not_digit_of_blank blank
        rw [digitsValue_concat_blank places same, digitsScale_concat_blank places same]
        exact ⟨_, _, reads_concat.mpr
          ⟨_, read, step_fraction_eq_ok.mpr (Or.inr (Or.inl ⟨blank, rfl⟩))⟩⟩

theorem letters_read {q : Progress} {total number : Nat} {fraction : Option (Nat × Nat)}
    (first : ∀ c, isUnitLetter c = true →
      ∃ offset, q.step c = .ok ⟨total, offset, .unit number fraction [c]⟩)
    {letters : List Char} (some : letters ≠ []) (each : ∀ c ∈ letters, isUnitLetter c = true) :
    ∃ offset, Reads q letters ⟨total, offset, .unit number fraction letters.reverse⟩ := by
  induction letters using List.reverseRecOn with
  | nil => exact absurd rfl some
  | append_singleton letters c ih =>
      obtain ⟨earlier, last⟩ := List.forall_mem_append.mp each
      have letter := last c (List.mem_singleton.mpr rfl)
      by_cases alone : letters = []
      · subst alone
        obtain ⟨offset, stepped⟩ := first c letter
        exact ⟨offset, reads_concat.mpr ⟨q, reads_nil q, stepped⟩⟩
      · obtain ⟨offset, read⟩ := ih alone earlier
        rw [List.reverse_concat]
        exact ⟨_, reads_concat.mpr
          ⟨_, read, step_unit_eq_ok.mpr (Or.inr (Or.inr ⟨letter, rfl⟩))⟩⟩

section Settled

variable {p : Progress} {total : Nat} (settled : p.Settled total)

include settled

/-- After an amount the first letter of a unit can follow. -/
theorem Amount.reads {chars : List Char} {number : Nat} {fraction : Option (Nat × Nat)}
    (amount : Amount chars number fraction) :
    ∃ q, Reads p chars q ∧ ∀ c, isUnitLetter c = true →
      ∃ offset, q.step c = .ok ⟨total, offset, .unit number fraction [c]⟩ := by
  cases amount with
  | whole number =>
      obtain ⟨offset, read⟩ := number.reads settled
      refine ⟨_, read, fun c letter => ⟨offset + c.utf8Size, ?_⟩⟩
      exact step_whole_eq_ok.mpr (Or.inr (Or.inr (Or.inl ⟨letter, rfl⟩)))
  | @point chars places number fraction some =>
      obtain ⟨offset, read⟩ := number.reads settled
      have pointed : Progress.step ⟨total, offset, .whole (digitsValue chars)⟩ '.' = .ok _ :=
        step_whole_eq_ok.mpr (Or.inr (Or.inr (Or.inr ⟨rfl, rfl⟩)))
      obtain ⟨after, since, further⟩ :=
        fraction.reads total (offset + '.'.utf8Size) (digitsValue chars) offset
      have whole := reads_append.mpr ⟨_, reads_concat.mpr ⟨_, read, pointed⟩, further⟩
      rw [List.append_assoc] at whole
      refine ⟨_, whole, fun c letter => ⟨after + c.utf8Size, ?_⟩⟩
      exact step_fraction_eq_ok.mpr (Or.inr (Or.inr ⟨letter, some, rfl⟩))

theorem Term.Spelled.reads {t : Term} {chars : List Char} (spelled : t.Spelled chars) :
    ∃ offset, Reads p chars ⟨total, offset, .unit t.number t.fraction t.letters.reverse⟩ := by
  obtain ⟨amount, some, each⟩ := spelled
  obtain ⟨q, read, first⟩ := amount.reads settled
  obtain ⟨offset, further⟩ := letters_read first some each
  exact ⟨offset, reads_append.mpr ⟨q, read, further⟩⟩

end Settled

theorem Sum.reads {chars : List Char} {total : Nat} (sum : Sum chars total) :
    ∃ p, Reads .start chars p ∧ p.Settled total := by
  induction sum with
  | empty => exact ⟨_, reads_nil _, .seeking⟩
  | blank _ blank ih =>
      obtain ⟨p, read, settled⟩ := ih
      obtain ⟨q, stepped, settled⟩ := settled.blank blank
      exact ⟨q, reads_concat.mpr ⟨p, read, stepped⟩, settled⟩
  | term _ spells added ih =>
      obtain ⟨p, read, settled⟩ := ih
      obtain ⟨offset, further⟩ := spells.reads settled
      exact ⟨_, reads_append.mpr ⟨p, read, further⟩, .unit added⟩

/-! ## Texts that are too long -/

theorem foldlM_eq_error {ε α β : Type} {f : β → α → Except ε β} {text : List α} {b : β} {e : ε} :
    text.foldlM f b = .error e ↔ ∃ before a rest q, before ++ a :: rest = text ∧
      before.foldlM f b = .ok q ∧ f q a = .error e := by
  induction text generalizing b with
  | nil =>
      constructor
      · nofun
      · rintro ⟨before, _, _, _, empty, _⟩
        cases before <;> cases empty
  | cons a rest ih =>
      rw [List.foldlM_cons, bind_eq_error]
      constructor
      · rintro (failed | ⟨next, stepped, failed⟩)
        · exact ⟨[], a, rest, b, rfl, rfl, failed⟩
        · obtain ⟨before, c, others, q, rfl, read, failed⟩ := ih.mp failed
          exact ⟨a :: before, c, others, q, rfl, bind_eq_ok.mpr ⟨next, stepped, read⟩, failed⟩
      · rintro ⟨before, c, others, q, same, read, failed⟩
        cases before with
        | nil =>
            cases same
            cases read
            exact Or.inl failed
        | cons first before =>
            cases same
            obtain ⟨next, stepped, read⟩ := bind_eq_ok.mp read
            exact Or.inr ⟨next, stepped, ih.mpr ⟨before, c, others, q, rfl, read, failed⟩⟩

/-- The sum of a unit whose letters ended is too long. -/
def Progress.TooLong (p : Progress) : Prop :=
  ∃ number fraction letters, p.stage = .unit number fraction letters ∧
    addUnit p.total number fraction letters.reverse = .error .tooLong

theorem step_eq_tooLong {p : Progress} {c : Char} :
    p.step c = .error .tooLong ↔ p.TooLong ∧ (c.isDigit = true ∨ isBlank c = true) := by
  obtain ⟨total, offset, stage⟩ := p
  unfold Progress.step Progress.TooLong
  cases stage with
  | seeking => cases class_of_char c <;> simp [*, throw_eq_error]
  | whole =>
      cases class_of_char c with
      | other =>
          by_cases point : c = '.'
          · subst point
            simp [*]
          · simp [*, throw_eq_error]
      | _ => simp [*, checked_bind_eq_tooLong]
  | fraction number part scale =>
      cases class_of_char c with
      | digit => simp [*, checked_bind_eq_tooLong]
      | blank => simp [*]
      | letter => by_cases empty : scale = 1 <;> simp [*, throw_eq_error]
      | other => simp [*, throw_eq_error]
  | unit => cases class_of_char c <;> simp [*, bind_eq_error, throw_eq_error]

theorem finish_eq_tooLong {p : Progress} : p.finish = .error .tooLong ↔ p.TooLong := by
  obtain ⟨total, offset, stage⟩ := p
  unfold Progress.finish Progress.TooLong
  cases stage with
  | seeking since => cases since <;> simp [throw_eq_error]
  | whole => simp [addUnit_nil]
  | fraction number part scale =>
      by_cases empty : scale = 1 <;> simp [addUnit_nil, empty, throw_eq_error]
  | unit => simp

theorem Progress.Of.exists_term {p : Progress} {text : List Char} (read : p.Of text)
    (tooLong : p.TooLong) : ∃ before spelled t, before ++ spelled = text ∧ Sum before p.total ∧
      Term.Spelled t spelled ∧ t.addTo p.total = .error .tooLong := by
  obtain ⟨total, offset, stage⟩ := p
  obtain ⟨before, own, same, sum, found⟩ := read
  obtain ⟨number, fraction, letters, rfl, tooLong⟩ := tooLong
  cases found with
  | unit spelled =>
      rw [List.reverse_reverse] at tooLong
      exact ⟨before, own, _, same, sum, spelled, tooLong⟩

theorem read_of_ne {text : List Char} (terms : text ≠ ['0']) :
    read text = text.foldlM Progress.step .start >>= Progress.finish :=
  if_neg terms

/-- A text is too long for a duration exactly if one of its terms brims over the sum of those before
it. -/
theorem read_eq_tooLong {text : List Char} : read text = .error .tooLong ↔ Overruns text := by
  constructor
  · intro tooLong
    by_cases zero : text = ['0']
    · subst zero
      cases tooLong
    · rw [read_of_ne zero, bind_eq_error] at tooLong
      rcases tooLong with stopped | ⟨p, read, ended⟩
      · obtain ⟨chars, c, rest, p, rfl, read, stopped⟩ := foldlM_eq_error.mp stopped
        obtain ⟨tooLong, ends⟩ := step_eq_tooLong.mp stopped
        obtain ⟨before, spelled, t, rfl, sum, spells, tooLong⟩ :=
          (Progress.of_reads read).exists_term tooLong
        refine ⟨before, spelled, c :: rest, p.total, t, rfl, sum, spells, ?_,
          addUnit_eq_tooLong.mp tooLong⟩
        rintro _ ⟨⟩
        exact ends
      · obtain ⟨before, spelled, t, rfl, sum, spells, tooLong⟩ :=
          (Progress.of_reads read).exists_term (finish_eq_tooLong.mp ended)
        exact ⟨before, spelled, [], p.total, t, List.append_nil _, sum, spells, nofun,
          addUnit_eq_tooLong.mp tooLong⟩
  · rintro ⟨before, spelled, rest, total, t, rfl, sum, spells, ends, brims⟩
    have terms : before ++ spelled ++ rest ≠ ['0'] := by
      intro zero
      obtain ⟨c, member, letter⟩ := spells.exists_letter
      have alone : c ∈ ['0'] := zero ▸ List.mem_append_left _ (List.mem_append_right _ member)
      cases List.mem_singleton.mp alone
      cases letter
    obtain ⟨p, read, settled⟩ := sum.reads
    obtain ⟨offset, further⟩ := spells.reads settled
    have whole := reads_append.mpr ⟨p, read, further⟩
    have tooLong : Progress.TooLong
        ⟨total, offset, .unit t.number t.fraction t.letters.reverse⟩ := by
      refine ⟨_, _, _, rfl, ?_⟩
      rw [List.reverse_reverse]
      exact addUnit_eq_tooLong.mpr brims
    rw [read_of_ne terms, bind_eq_error]
    cases rest with
    | nil =>
        rw [List.append_nil]
        exact Or.inr ⟨_, whole, finish_eq_tooLong.mpr tooLong⟩
    | cons c rest =>
        refine Or.inl (foldlM_eq_error.mpr ⟨_, c, rest, _, rfl, whole, ?_⟩)
        exact step_eq_tooLong.mpr ⟨tooLong, ends c rfl⟩

end Duration

end ClusterHarness
