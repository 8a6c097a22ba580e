import ClusterHarness.Proofs.Time.Calendar

/-!
# Timestamps as they are written

A timestamp of the years 0 to 9999 is written so that it is read again, the fraction of its second
apart.  The reader is followed field by field: each field is written with as many digits as the
reader takes for it.  Other years are written with a sign and as many digits as they have; they are
read again up to the last year that the reader knows.
-/

namespace ClusterHarness

namespace Timestamp

/-! ## Fields -/

theorem value_eq_ofDigitChars (digits : List Char) :
    value digits = Nat.ofDigitChars 10 digits 0 := by
  simp only [value, Nat.ofDigitChars, Nat.mul_comm]

theorem length_padded {width n : Nat} (fits : n < 10 ^ width) (some : 0 < width) :
    (padded width n).length = width := by
  have short : (Nat.toDigits 10 n).length ≤ width :=
    (Nat.length_toDigits_le_iff (by decide) some).mpr fits
  simp only [padded, Binary64.zeros, List.length_append, List.length_replicate]
  omega

theorem le_length_padded {width n : Nat} : width ≤ (padded width n).length := by
  simp only [padded, Binary64.zeros, List.length_append, List.length_replicate]
  omega

theorem isDigit_of_mem_padded {width n : Nat} {c : Char} (member : c ∈ padded width n) :
    c.isDigit = true := by
  rcases List.mem_append.mp member with zero | digit
  · rw [List.eq_of_mem_replicate zero]
    rfl
  · exact Nat.isDigit_of_mem_toDigits (by decide) (by decide) digit

theorem value_padded (width n : Nat) : value (padded width n) = n := by
  rw [value_eq_ofDigitChars, padded, Binary64.zeros, Nat.ofDigitChars_append,
    Nat.ofDigitChars_replicate_zero, Nat.mul_zero, Nat.ofDigitChars_ten_toDigits]

theorem not_isBlank_of_isDigit {c : Char} (digit : c.isDigit = true) : isBlank c = false := by
  have range := (Char.isDigit_iff_toNat.mp digit)
  have zero : '0'.toNat = 48 := rfl
  have nine : '9'.toNat = 57 := rfl
  simp only [isBlank, Bool.or_eq_false_iff, Bool.and_eq_false_iff, decide_eq_false_iff_not]
  omega

theorem skip_eq_self {c : Char} {rest : List Char} (visible : isBlank c = false) :
    skip (c :: rest) = c :: rest := by
  rw [skip, List.dropWhile_cons_of_neg (by simp [visible])]

theorem digits?_padded {width n : Nat} (fits : n < 10 ^ width) (some : 0 < width)
    (rest : List Char) : digits? width (padded width n ++ rest) = .some (n, rest) := by
  have taken : (padded width n ++ rest).take width = padded width n :=
    List.take_left' (length_padded fits some)
  have digits : (padded width n).takeWhile Char.isDigit = padded width n :=
    List.takeWhile_eq_self_iff.mpr fun _ => isDigit_of_mem_padded
  have filled : (padded width n).isEmpty = false := by
    rw [List.isEmpty_eq_false_iff, ← List.length_pos_iff, length_padded fits some]
    exact some
  unfold digits?
  dsimp only
  rw [taken, digits, filled, value_padded, List.drop_left]
  rfl

/-- A number with all its digits begins with one. -/
theorem exists_padded_append {width n : Nat} (fits : n < 10 ^ width) (some : 0 < width)
    (rest : List Char) :
    ∃ c more, padded width n ++ rest = c :: more ∧ c.isDigit = true := by
  cases written : padded width n with
  | nil =>
      have long := length_padded fits some
      rw [written] at long
      exact absurd long (Nat.ne_of_lt some)
  | cons c more =>
      exact ⟨c, more ++ rest, rfl, isDigit_of_mem_padded (written ▸ List.mem_cons_self)⟩

theorem skip_padded {width n : Nat} (fits : n < 10 ^ width) (some : 0 < width)
    (rest : List Char) : skip (padded width n ++ rest) = padded width n ++ rest := by
  obtain ⟨c, more, written, digit⟩ := exists_padded_append fits some rest
  rw [written, skip_eq_self (not_isBlank_of_isDigit digit)]

theorem field?_padded {width n : Nat} (fits : n < 10 ^ width) (some : 0 < width)
    (rest : List Char) : field? width (padded width n ++ rest) = .some (n, rest) := by
  rw [field?, skip_padded fits some, digits?_padded fits some]

/-! ## Dates and times of day -/

/-- The years that are written with four digits. -/
def InEra (t : Timestamp) : Prop := 0 ≤ t.date.year ∧ t.date.year ≤ 9999

/-- After its sign a year is read up to the first character that is no digit. -/
theorem digits?_length_padded {width n : Nat} (some : 0 < width) {c : Char}
    (other : c.isDigit = false) (rest : List Char) :
    digits? (padded width n ++ c :: rest).length (padded width n ++ c :: rest) =
      .some (n, c :: rest) := by
  have digits : (padded width n ++ c :: rest).takeWhile Char.isDigit = padded width n := by
    rw [List.takeWhile_append_of_pos fun _ => isDigit_of_mem_padded,
      List.takeWhile_cons_of_neg (by simp [other]), List.append_nil]
  have filled : (padded width n).isEmpty = false := by
    rw [List.isEmpty_eq_false_iff, ← List.length_pos_iff]
    exact Nat.lt_of_lt_of_le some le_length_padded
  unfold digits?
  dsimp only
  rw [List.take_length, digits, filled, value_padded, List.drop_left]
  rfl

theorem year?_yearText (year : Int) {c : Char} (other : c.isDigit = false) (rest : List Char) :
    year? (yearText year ++ c :: rest) = some (year, c :: rest) := by
  unfold yearText
  split
  · next era =>
      have fits : year.toNat < 10 ^ 4 := by omega
      obtain ⟨d, more, written, digit⟩ := exists_padded_append fits (by decide) (c :: rest)
      rw [year?, skip_padded fits (by decide), written]
      split
      · next same =>
          cases same
          cases digit
      · next same =>
          cases same
          cases digit
      · rw [← written, digits?_padded fits (by decide), Option.map_some]
        exact congrArg (fun n => some (n, c :: rest)) (Int.toNat_of_nonneg era.1)
  · have read := digits?_length_padded (n := year.natAbs) (show 0 < 4 by decide) other rest
    split
    · have least : -(year.natAbs : Int) = year := by omega
      rw [List.cons_append, year?, skip_eq_self (by decide)]
      refine (congrArg (Option.map fun found => (-(found.1 : Int), found.2)) read).trans ?_
      rw [Option.map_some, least]
    · have greatest : (year.natAbs : Int) = year := by omega
      rw [List.cons_append, year?, skip_eq_self (by decide)]
      refine (congrArg (Option.map fun found => ((found.1 : Int), found.2)) read).trans ?_
      rw [Option.map_some, greatest]

/-- A date is read as it was written, unless its year is too far away. -/
theorem date?_written {date : Date} (known : date.valid = true) (rest : List Char) :
    date? (yearText date.year ++ '-' :: (padded 2 date.month ++ '-' :: (padded 2 date.day ++ rest)))
      = if date.year.natAbs ≤ 262142 then some (date, rest) else none := by
  obtain ⟨⟨_, december⟩, _, last⟩ := Date.valid_iff.mp known
  have short : Date.daysInMonth date.year date.month ≤ 31 := by
    unfold Date.daysInMonth
    split <;> (try split) <;> decide
  have dash : isBlank '-' = false := by decide
  have month : date.month < 10 ^ 2 := by omega
  have day : date.day < 10 ^ 2 := by omega
  unfold date?
  simp only [year?_yearText date.year (show '-'.isDigit = false by decide),
    field?_padded month (by decide), field?_padded day (by decide), skip_eq_self dash, literal?,
    if_true, Option.bind_eq_bind, Option.bind_some, known, true_and]

theorem time?_written {minute second : Nat} (ofDay : minute < minutesPerDay)
    (ofMinute : second ≤ 60) :
    time? (padded 2 (minute / 60) ++ ':' :: (padded 2 (minute % 60) ++ ':' ::
      (padded 2 second ++ ['Z']))) = some ((minute, second, 0), ['Z']) := by
  unfold minutesPerDay at ofDay
  have colon : isBlank ':' = false := by decide
  have hours : minute / 60 < 24 := by omega
  have minutes : minute % 60 < 60 := by omega
  have whole : minute / 60 * 60 + minute % 60 = minute := Nat.div_add_mod' minute 60
  have noFraction : fraction? ['Z'] = some (0, ['Z']) := rfl
  unfold time?
  simp only [field?_padded (show minute / 60 < 10 ^ 2 by omega) (by decide),
    field?_padded (show minute % 60 < 10 ^ 2 by omega) (by decide),
    field?_padded (show second < 10 ^ 2 by omega) (by decide), skip_eq_self colon, literal?,
    if_true, Option.bind_eq_bind, Option.bind_some, noFraction]
  rw [if_pos ⟨hours, minutes, ofMinute⟩, whole]

/-- What is written in UTC is read as it is. -/
theorem ofLocal_zero (t : Timestamp) (ofDay : t.minute < minutesPerDay) :
    ofLocal t.date t.minute t.second 0 0 = t.truncated := by
  unfold minutesPerDay at ofDay
  unfold ofLocal minutesPerDay
  dsimp only
  rw [if_neg (by omega), if_neg (by omega)]
  simp [truncated]

/-- What a timestamp of the calendar is written to is read as the timestamp again, but for the
fraction of its second, or not at all if its year is too far away. -/
theorem parse?_written {t : Timestamp} (known : t.Known) :
    parse? t.text.toList = if t.date.year.natAbs ≤ 262142 then some t.truncated else none := by
  unfold text dateText
  rw [String.toList_ofList]
  simp only [List.append_assoc, List.cons_append]
  unfold parse?
  rw [date?_written known.date]
  split
  · simp only [time?_written known.minute known.second, separator?,
      skip_eq_self (show isBlank 'Z' = false by decide), offset?, Option.bind_eq_bind,
      Option.bind_some]
    exact congrArg some (ofLocal_zero t known.minute)
  · rfl

/-- A timestamp is written so that it is read again, but for the fraction of its second. -/
theorem parse?_text {t : Timestamp} (known : t.Known) (era : t.InEra) :
    parse? t.text.toList = some t.truncated := by
  obtain ⟨least, greatest⟩ := era
  rw [parse?_written known, if_pos (by omega)]

end Timestamp

end ClusterHarness
