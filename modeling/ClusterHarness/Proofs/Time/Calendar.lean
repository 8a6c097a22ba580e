import ClusterHarness.Time.Timestamp
import Mathlib.Data.Int.Cast.Lemmas
import Mathlib.Data.List.TakeWhile

/-!
# Dates as days and timestamps as instants

Days are counted through the calendar and nanoseconds through the days.  The date before is one day
less, the timestamp a day earlier 24 hours less, and an earlier timestamp is one with a smaller
count.
-/

namespace ClusterHarness

namespace Date

/-! ## Days -/

/-- How many of the years up to this one are leap years, counted from the year 0. -/
def leapYears (year : Int) : Int := year / 4 - year / 100 + year / 400

def daysBeforeYear (year : Int) : Int := 365 * year + leapYears (year - 1)

def daysBeforeMonth (year : Int) : Nat → Nat
  | 0 => 0
  | 1 => 0
  | month + 2 => daysBeforeMonth year (month + 1) + daysInMonth year (month + 1)

def ordinal (d : Date) : Int := daysBeforeYear d.year + daysBeforeMonth d.year d.month + d.day

theorem daysBeforeMonth_succ (year : Int) {month : Nat} (named : 1 ≤ month) :
    daysBeforeMonth year (month + 1) = daysBeforeMonth year month + daysInMonth year month := by
  obtain ⟨earlier, rfl⟩ := Nat.exists_eq_add_of_le' named
  rfl

theorem daysBeforeMonth_mono (year : Int) {a b : Nat} (named : 1 ≤ a) (le : a ≤ b) :
    daysBeforeMonth year a ≤ daysBeforeMonth year b := by
  induction le with
  | refl => exact Nat.le_refl _
  | step le ih =>
      rw [Nat.succ_eq_add_one, daysBeforeMonth_succ year (Nat.le_trans named le)]
      exact Nat.le_trans ih (Nat.le_add_right _ _)

/-- A year has 365 days, a leap year one more. -/
theorem daysBeforeMonth_thirteen (year : Int) :
    daysBeforeMonth year 13 = if isLeap year then 366 else 365 := by
  unfold daysBeforeMonth
  simp only [daysBeforeMonth, daysInMonth]
  split <;> rfl

theorem daysBeforeYear_succ (year : Int) :
    daysBeforeYear (year + 1) = daysBeforeYear year + daysBeforeMonth year 13 := by
  have leap : leapYears year = leapYears (year - 1) + if isLeap year then 1 else 0 := by
    unfold leapYears isLeap
    by_cases fourth : year % 4 = 0 <;> by_cases hundredth : year % 100 = 0 <;>
      by_cases cycle : year % 400 = 0 <;> simp [fourth, hundredth, cycle] <;> omega
  rw [daysBeforeMonth_thirteen]
  unfold daysBeforeYear
  rw [Int.add_sub_cancel, leap]
  split <;> push_cast <;> omega

theorem daysBeforeYear_mono {a b : Int} (le : a ≤ b) : daysBeforeYear a ≤ daysBeforeYear b := by
  unfold daysBeforeYear leapYears
  omega

theorem valid_iff {d : Date} :
    d.valid = true ↔
      (1 ≤ d.month ∧ d.month ≤ 12) ∧ 1 ≤ d.day ∧ d.day ≤ daysInMonth d.year d.month := by
  simp [valid, and_assoc]

theorem one_le_daysInMonth (year : Int) (month : Nat) : 1 ≤ daysInMonth year month := by
  unfold daysInMonth
  split <;> (try split) <;> decide

/-- The date before is the day before. -/
theorem ordinal_previous {d : Date} (known : d.valid = true) :
    d.previous.ordinal = d.ordinal - 1 := by
  obtain ⟨⟨firstMonth, _⟩, firstDay, _⟩ := valid_iff.mp known
  unfold previous ordinal
  by_cases later : 1 < d.day
  · rw [if_pos later]
    push_cast [Nat.cast_sub firstDay]
    omega
  · rw [if_neg later]
    by_cases laterMonth : 1 < d.month
    · obtain ⟨month, same⟩ := Nat.exists_eq_add_of_le' firstMonth
      have before := daysBeforeMonth_succ d.year (show 1 ≤ month by omega)
      rw [if_pos laterMonth, same, before]
      dsimp only
      rw [Nat.add_sub_cancel]
      push_cast
      omega
    · have year := daysBeforeYear_succ (d.year - 1)
      have december : daysBeforeMonth (d.year - 1) 13 =
          daysBeforeMonth (d.year - 1) 12 + daysInMonth (d.year - 1) 12 := rfl
      have january : daysBeforeMonth d.year d.month = 0 := by
        rw [show d.month = 1 by omega]
        rfl
      have long : daysInMonth (d.year - 1) 12 = 31 := rfl
      rw [Int.sub_add_cancel] at year
      rw [if_neg laterMonth, january]
      dsimp only
      omega

/-- The date before is one of the calendar. -/
theorem valid_previous {d : Date} (known : d.valid = true) : d.previous.valid = true := by
  obtain ⟨⟨firstMonth, lastMonth⟩, firstDay, lastDay⟩ := valid_iff.mp known
  unfold previous
  by_cases later : 1 < d.day
  · rw [if_pos later, valid_iff]
    dsimp only
    omega
  · rw [if_neg later]
    by_cases laterMonth : 1 < d.month
    · rw [if_pos laterMonth, valid_iff]
      have long := one_le_daysInMonth d.year (d.month - 1)
      dsimp only
      omega
    · rw [if_neg laterMonth, valid_iff]
      have long : daysInMonth (d.year - 1) 12 = 31 := rfl
      dsimp only
      omega

/-- The date after is one of the calendar. -/
theorem valid_next {d : Date} (known : d.valid = true) : d.next.valid = true := by
  obtain ⟨⟨firstMonth, lastMonth⟩, firstDay, lastDay⟩ := valid_iff.mp known
  unfold next
  by_cases earlier : d.day < daysInMonth d.year d.month
  · rw [if_pos earlier, valid_iff]
    dsimp only
    omega
  · rw [if_neg earlier]
    by_cases earlierMonth : d.month < 12
    · rw [if_pos earlierMonth, valid_iff]
      exact ⟨⟨Nat.le_add_left 1 _, earlierMonth⟩, Nat.le_refl 1, one_le_daysInMonth ..⟩
    · rw [if_neg earlierMonth, valid_iff]
      exact ⟨⟨Nat.le_refl 1, Nat.le_add_left 1 11⟩, Nat.le_refl 1, one_le_daysInMonth ..⟩

/-! ## Order of dates -/

/-- Within a year a date is counted before the months that follow its own. -/
theorem daysBeforeMonth_add_day_le {d : Date} (known : d.valid = true) {month : Nat}
    (later : d.month < month) :
    daysBeforeMonth d.year d.month + d.day ≤ daysBeforeMonth d.year month := by
  obtain ⟨⟨firstMonth, _⟩, _, lastDay⟩ := valid_iff.mp known
  calc
    daysBeforeMonth d.year d.month + d.day
        ≤ daysBeforeMonth d.year d.month + daysInMonth d.year d.month :=
      Nat.add_le_add_left lastDay _
    _ = daysBeforeMonth d.year (d.month + 1) := (daysBeforeMonth_succ d.year firstMonth).symm
    _ ≤ daysBeforeMonth d.year month := daysBeforeMonth_mono d.year (Nat.le_add_left 1 _) later

theorem before_iff {a b : Date} :
    a.before b = true ↔ a.year < b.year ∨ a.year = b.year ∧
      (a.month < b.month ∨ a.month = b.month ∧ a.day < b.day) := by
  simp [before]

theorem ordinal_lt_of_before {a b : Date} (known : a.valid = true) (known' : b.valid = true)
    (earlier : a.before b = true) : a.ordinal < b.ordinal := by
  obtain ⟨_, firstDay, _⟩ := valid_iff.mp known'
  unfold ordinal
  rcases before_iff.mp earlier with year | ⟨year, month | ⟨month, day⟩⟩
  · have december : a.month < 13 := Nat.lt_succ_of_le (valid_iff.mp known).1.2
    have within := daysBeforeMonth_add_day_le known december
    have years := daysBeforeYear_mono (Int.add_one_le_of_lt year)
    rw [daysBeforeYear_succ] at years
    omega
  · have within := daysBeforeMonth_add_day_le known month
    rw [year] at within ⊢
    omega
  · rw [year, month]
    omega

theorem before_trichotomy (a b : Date) : a.before b = true ∨ a = b ∨ b.before a = true := by
  obtain ⟨year, month, day⟩ := a
  obtain ⟨year', month', day'⟩ := b
  simp only [before_iff, Date.mk.injEq]
  omega

/-- Of two dates the one with the smaller number is the earlier one. -/
theorem before_iff_ordinal_lt {a b : Date} (known : a.valid = true) (known' : b.valid = true) :
    a.before b = true ↔ a.ordinal < b.ordinal := by
  constructor
  · exact ordinal_lt_of_before known known'
  · intro lower
    rcases before_trichotomy a b with earlier | rfl | later
    · exact earlier
    · exact absurd lower (Int.lt_irrefl _)
    · have higher := ordinal_lt_of_before known' known later
      omega

theorem eq_iff_ordinal_eq {a b : Date} (known : a.valid = true) (known' : b.valid = true) :
    a = b ↔ a.ordinal = b.ordinal := by
  constructor
  · exact congrArg ordinal
  · intro same
    rcases before_trichotomy a b with earlier | equal | later
    · have lower := ordinal_lt_of_before known known' earlier
      omega
    · exact equal
    · have higher := ordinal_lt_of_before known' known later
      omega

end Date

namespace Timestamp

/-! ## Instants -/

def nanosPerSecond : Int := 1000000000

def nanosPerDay : Int := 86400 * nanosPerSecond

def instant (t : Timestamp) : Int :=
  t.date.ordinal * nanosPerDay + (60 * t.minute + t.second) * nanosPerSecond + t.nanos

/-- A date of the calendar and a time of day, perhaps in a leap second. -/
structure Known (t : Timestamp) : Prop where
  date : t.date.valid = true
  minute : t.minute < minutesPerDay
  second : t.second ≤ 60
  nanos : t.nanos < 1000000000

/-- The time of day is not in a leap second. -/
structure Regular (t : Timestamp) : Prop extends t.Known where
  regular : t.second < 60

/-- The last instant that is not after a timestamp: of a leap second, the last one of its minute. -/
def lastInstant (t : Timestamp) : Int :=
  min t.instant (t.date.ordinal * nanosPerDay + 60 * (t.minute + 1) * nanosPerSecond - 1)

theorem Regular.lastInstant_eq {t : Timestamp} (regular : t.Regular) :
    t.lastInstant = t.instant := by
  obtain ⟨⟨_, _, _, nanos⟩, second⟩ := regular
  unfold lastInstant instant nanosPerSecond
  omega

/-- A day earlier is 24 hours before. -/
theorem instant_dayEarlier {t : Timestamp} (known : t.Known) :
    t.dayEarlier.instant = t.instant - nanosPerDay := by
  have previous := Date.ordinal_previous known.date
  have day := known.minute
  have leap := known.second
  unfold dayEarlier
  split
  · unfold instant nanosPerDay nanosPerSecond
    dsimp only
    omega
  · next leapSecond =>
      have sixty : t.second = 60 := by omega
      split
      · unfold instant nanosPerDay nanosPerSecond
        dsimp only
        omega
      · next midnight =>
          unfold minutesPerDay at day midnight
          unfold instant nanosPerDay nanosPerSecond
          dsimp only
          omega

/-- A day before a leap second is none. -/
theorem Known.dayEarlier {t : Timestamp} (known : t.Known) : t.dayEarlier.Regular := by
  obtain ⟨date, minute, second, nanos⟩ := known
  have previous := Date.valid_previous date
  unfold Timestamp.dayEarlier
  split
  · next regular => exact ⟨⟨previous, minute, second, nanos⟩, regular⟩
  · have start : t.second - 60 < 60 := by omega
    split
    · next within => exact ⟨⟨previous, within, Nat.le_of_lt start, nanos⟩, start⟩
    · exact ⟨⟨date, Nat.zero_lt_succ _, Nat.le_of_lt start, nanos⟩, start⟩

/-- What is before a timestamp outside of leap seconds has passed its last instant by then. -/
theorem before_iff_lastInstant_lt {a b : Timestamp} (known : a.Known) (regular : b.Regular) :
    a.before b = true ↔ a.lastInstant < b.instant := by
  have dates := Date.before_iff_ordinal_lt known.date regular.date
  have same := Date.eq_iff_ordinal_eq known.date regular.date
  obtain ⟨_, minute, second, nanos⟩ := known
  obtain ⟨⟨_, minute', _, nanos'⟩, second'⟩ := regular
  unfold minutesPerDay at minute minute'
  unfold before lastInstant instant nanosPerDay nanosPerSecond
  simp only [Bool.or_eq_true, Bool.and_eq_true, decide_eq_true_eq, dates, same]
  omega

/-- More than a day before a timestamp is more than 24 hours before it. -/
theorem before_dayEarlier_iff {a b : Timestamp} (known : a.Known) (known' : b.Known) :
    a.before b.dayEarlier = true ↔ a.lastInstant < b.instant - nanosPerDay := by
  rw [before_iff_lastInstant_lt known known'.dayEarlier, instant_dayEarlier known']

/-! ## Timestamps that are read -/

theorem value_lt {digits : List Char} (all : ∀ c ∈ digits, c.isDigit = true) :
    value digits < 10 ^ digits.length := by
  have goesOn : ∀ n, digits.foldl (fun n c => n * 10 + (c.toNat - '0'.toNat)) n <
      (n + 1) * 10 ^ digits.length := by
    induction digits with
    | nil => simp
    | cons c rest ih =>
        intro n
        have digit := (Char.isDigit_iff_toNat.mp (all c List.mem_cons_self)).2
        have others := ih (fun d member => all d (List.mem_cons_of_mem _ member))
          (n * 10 + (c.toNat - '0'.toNat))
        have next : n * 10 + (c.toNat - '0'.toNat) + 1 ≤ (n + 1) * 10 := by
          have nine : '9'.toNat - '0'.toNat = 9 := rfl
          omega
        calc
          _ < (n * 10 + (c.toNat - '0'.toNat) + 1) * 10 ^ rest.length := others
          _ ≤ (n + 1) * 10 * 10 ^ rest.length := Nat.mul_le_mul_right _ next
          _ = (n + 1) * 10 ^ (rest.length + 1) := by rw [Nat.pow_succ', Nat.mul_assoc]
  simpa [value] using goesOn 0

/-- A fraction is less than a second. -/
theorem fraction?_lt {chars rest : List Char} {nanos : Nat}
    (read : fraction? chars = some (nanos, rest)) : nanos < 1000000000 := by
  unfold fraction? at read
  split at read
  · next digits =>
      dsimp only at read
      split at read
      · cases read
      · cases read
        generalize kept : (digits.takeWhile Char.isDigit).take 9 = digits'
        have all : ∀ c ∈ digits', c.isDigit = true := fun c member =>
          List.mem_takeWhile_imp (List.mem_of_mem_take (kept ▸ member))
        have short : digits'.length ≤ 9 := kept ▸ List.length_take_le ..
        calc
          value digits' * 10 ^ (9 - digits'.length)
              < 10 ^ digits'.length * 10 ^ (9 - digits'.length) :=
            Nat.mul_lt_mul_of_pos_right (value_lt all) (Nat.pow_pos (by decide))
          _ = 10 ^ 9 := by rw [← Nat.pow_add, Nat.add_sub_cancel' short]
  · cases read
    decide

theorem pair?_lt {bound n : Nat} {chars rest : List Char}
    (read : pair? bound chars = some (n, rest)) : n < bound := by
  unfold pair? at read
  split at read
  · obtain ⟨⟨_, _, within⟩, same⟩ := Option.ite_none_right_eq_some.mp read
    cases same
    exact within
  · cases read

theorem natAbs_of_sign? {c : Char} {sign : Int} (read : sign? c = some sign) :
    sign.natAbs = 1 := by
  unfold sign? at read
  split at read
  · cases read
    rfl
  · split at read
    · cases read
      rfl
    · cases read

/-- An offset is less than a day. -/
theorem offset?_lt {chars rest : List Char} {ahead : Int}
    (read : offset? chars = some (ahead, rest)) : ahead.natAbs < minutesPerDay := by
  unfold offset? at read
  split at read
  · cases read
    decide
  · cases read
    decide
  · split at read
    · cases read
      decide
    · obtain ⟨sign, signed, read⟩ := Option.bind_eq_some_iff.mp read
      obtain ⟨⟨hours, _⟩, _, read⟩ := Option.bind_eq_some_iff.mp read
      obtain ⟨⟨minutes, _⟩, gotMinutes, read⟩ := Option.bind_eq_some_iff.mp read
      obtain ⟨ofDay, same⟩ := Option.ite_none_right_eq_some.mp read
      cases same
      have ofHour := pair?_lt gotMinutes
      rw [Int.natAbs_mul, natAbs_of_sign? signed, Nat.one_mul, Int.natAbs_natCast]
      unfold minutesPerDay
      omega
  · cases read

theorem date?_valid {chars rest : List Char} {date : Date}
    (read : date? chars = some (date, rest)) : date.valid = true := by
  obtain ⟨⟨year, _⟩, _, read⟩ := Option.bind_eq_some_iff.mp read
  obtain ⟨_, _, read⟩ := Option.bind_eq_some_iff.mp read
  obtain ⟨⟨month, _⟩, _, read⟩ := Option.bind_eq_some_iff.mp read
  obtain ⟨_, _, read⟩ := Option.bind_eq_some_iff.mp read
  obtain ⟨⟨day, _⟩, _, read⟩ := Option.bind_eq_some_iff.mp read
  obtain ⟨⟨valid, _⟩, same⟩ := Option.ite_none_right_eq_some.mp read
  cases same
  exact valid

theorem time?_lt {chars rest : List Char} {minute second nanos : Nat}
    (read : time? chars = some ((minute, second, nanos), rest)) :
    minute < minutesPerDay ∧ second ≤ 60 ∧ nanos < 1000000000 := by
  obtain ⟨⟨hour, _⟩, _, read⟩ := Option.bind_eq_some_iff.mp read
  obtain ⟨_, _, read⟩ := Option.bind_eq_some_iff.mp read
  obtain ⟨⟨minute, _⟩, _, read⟩ := Option.bind_eq_some_iff.mp read
  obtain ⟨_, _, read⟩ := Option.bind_eq_some_iff.mp read
  obtain ⟨⟨second, _⟩, _, read⟩ := Option.bind_eq_some_iff.mp read
  obtain ⟨⟨nanos, _⟩, fraction, read⟩ := Option.bind_eq_some_iff.mp read
  obtain ⟨⟨ofDay, ofHour, ofMinute⟩, same⟩ := Option.ite_none_right_eq_some.mp read
  cases same
  refine ⟨?_, ofMinute, fraction?_lt fraction⟩
  unfold minutesPerDay
  omega

/-- In UTC a timestamp of the calendar stays one. -/
theorem known_ofLocal {date : Date} {minute second nanos : Nat} {ahead : Int}
    (valid : date.valid = true) (ofDay : minute < minutesPerDay) (ofMinute : second ≤ 60)
    (ofSecond : nanos < 1000000000) (near : ahead.natAbs < minutesPerDay) :
    (ofLocal date minute second nanos ahead).Known := by
  unfold minutesPerDay at ofDay near
  unfold ofLocal minutesPerDay
  dsimp only
  split
  · refine ⟨Date.valid_previous valid, ?_, ofMinute, ofSecond⟩
    change (minute - ahead + 1440).toNat < 1440
    omega
  · split
    · refine ⟨Date.valid_next valid, ?_, ofMinute, ofSecond⟩
      change (minute - ahead - 1440).toNat < 1440
      omega
    · refine ⟨valid, ?_, ofMinute, ofSecond⟩
      change (minute - ahead).toNat < 1440
      omega

/-- What is read is a timestamp of the calendar. -/
theorem known_of_parse? {chars : List Char} {t : Timestamp} (read : parse? chars = some t) :
    t.Known := by
  obtain ⟨⟨date, _⟩, gotDate, read⟩ := Option.bind_eq_some_iff.mp read
  obtain ⟨_, _, read⟩ := Option.bind_eq_some_iff.mp read
  obtain ⟨⟨⟨minute, second, nanos⟩, _⟩, gotTime, read⟩ := Option.bind_eq_some_iff.mp read
  obtain ⟨⟨ahead, _⟩, gotOffset, read⟩ := Option.bind_eq_some_iff.mp read
  obtain ⟨_, same⟩ := Option.ite_none_right_eq_some.mp read
  cases same
  obtain ⟨ofDay, ofMinute, ofSecond⟩ := time?_lt gotTime
  exact known_ofLocal (date?_valid gotDate) ofDay ofMinute ofSecond (offset?_lt gotOffset)

end Timestamp

end ClusterHarness
