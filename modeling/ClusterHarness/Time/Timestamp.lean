import ClusterHarness.Numeric.Decimal
import ClusterHarness.Text.Blank

/-!
# Timestamps

A timestamp is a date and a time of day in UTC.  The reader takes RFC 3339 and its usual lapses:
blanks between the parts, a missing leading zero, any offset of less than a day.  The printer
writes whole seconds and `Z`.  A second of 60 stands for a leap second.
-/

namespace ClusterHarness

structure Date where
  year : Int
  month : Nat
  day : Nat
  deriving DecidableEq, Repr

namespace Date

def isLeap (year : Int) : Bool := year % 4 = 0 && (year % 100 ≠ 0 || year % 400 = 0)

def daysInMonth (year : Int) : Nat → Nat
  | 2 => if isLeap year then 29 else 28
  | 4 => 30
  | 6 => 30
  | 9 => 30
  | 11 => 30
  | _ => 31

def valid (d : Date) : Bool :=
  1 ≤ d.month && d.month ≤ 12 && 1 ≤ d.day && d.day ≤ daysInMonth d.year d.month

def next (d : Date) : Date :=
  if d.day < daysInMonth d.year d.month then { d with day := d.day + 1 }
  else if d.month < 12 then ⟨d.year, d.month + 1, 1⟩
  else ⟨d.year + 1, 1, 1⟩

def previous (d : Date) : Date :=
  if 1 < d.day then { d with day := d.day - 1 }
  else if 1 < d.month then ⟨d.year, d.month - 1, daysInMonth d.year (d.month - 1)⟩
  else ⟨d.year - 1, 12, 31⟩

def before (a b : Date) : Bool :=
  a.year < b.year || (a.year = b.year && (a.month < b.month
    || (a.month = b.month && a.day < b.day)))

end Date

structure Timestamp where
  date : Date
  /-- The minute of the day. -/
  minute : Nat
  second : Nat
  nanos : Nat
  deriving DecidableEq, Repr

namespace Timestamp

def minutesPerDay : Nat := 1440

/-- The timestamp whose local time lies so many minutes ahead of UTC. -/
def ofLocal (date : Date) (minute second nanos : Nat) (ahead : Int) : Timestamp :=
  let utc : Int := minute - ahead
  if utc < 0 then ⟨date.previous, (utc + minutesPerDay).toNat, second, nanos⟩
  else if minutesPerDay ≤ utc then ⟨date.next, (utc - minutesPerDay).toNat, second, nanos⟩
  else ⟨date, utc.toNat, second, nanos⟩

/-- The timestamp 24 hours earlier, where a leap second counts as the start of the next minute. -/
def dayEarlier (t : Timestamp) : Timestamp :=
  if t.second < 60 then { t with date := t.date.previous }
  else if t.minute + 1 < minutesPerDay then
    ⟨t.date.previous, t.minute + 1, t.second - 60, t.nanos⟩
  else ⟨t.date, 0, t.second - 60, t.nanos⟩

/-- Strictly earlier. -/
def before (a b : Timestamp) : Bool :=
  a.date.before b.date || (a.date = b.date && (a.minute < b.minute
    || (a.minute = b.minute && (a.second < b.second
      || (a.second = b.second && a.nanos < b.nanos)))))

/-- The timestamp with its fraction of a second cut off. -/
def truncated (t : Timestamp) : Timestamp := { t with nanos := 0 }

/-! ## Printing -/

/-- A number with at least so many digits. -/
def padded (width n : Nat) : List Char :=
  let digits := Nat.toDigits 10 n
  Binary64.zeros (width - digits.length) ++ digits

/-- Four digits for the years 0 to 9999, a sign before all others. -/
def yearText (year : Int) : List Char :=
  if 0 ≤ year ∧ year ≤ 9999 then padded 4 year.toNat
  else (if year < 0 then '-' else '+') :: padded 4 year.natAbs

def dateText (t : Timestamp) : List Char :=
  yearText t.date.year ++ '-' :: padded 2 t.date.month ++ '-' :: padded 2 t.date.day ++ 'T'
    :: padded 2 (t.minute / 60) ++ ':' :: padded 2 (t.minute % 60) ++ ':' :: padded 2 t.second

/-- Whole seconds in UTC. -/
def text (t : Timestamp) : String := String.ofList (dateText t ++ ['Z'])

/-- Nanoseconds in UTC. -/
def preciseText (t : Timestamp) : String :=
  String.ofList (dateText t ++ '.' :: padded 9 t.nanos ++ ['Z'])

/-! ## Reading -/

def skip (chars : List Char) : List Char := chars.dropWhile isBlank

def value (digits : List Char) : Nat :=
  digits.foldl (fun n c => n * 10 + (c.toNat - '0'.toNat)) 0

/-- A number of one to `width` digits. -/
def digits? (width : Nat) (chars : List Char) : Option (Nat × List Char) :=
  let digits := (chars.take width).takeWhile Char.isDigit
  if digits.isEmpty then none else some (value digits, chars.drop digits.length)

/-- A number in a field of `width` digits, blanks before it skipped. -/
def field? (width : Nat) (chars : List Char) : Option (Nat × List Char) :=
  digits? width (skip chars)

/-- A year: up to four digits, or a sign and any number of them. -/
def year? (chars : List Char) : Option (Int × List Char) :=
  match skip chars with
  | '-' :: rest => (digits? rest.length rest).map fun (n, rest) => (-(n : Int), rest)
  | '+' :: rest => (digits? rest.length rest).map fun (n, rest) => ((n : Int), rest)
  | rest => (digits? 4 rest).map fun (n, rest) => ((n : Int), rest)

def literal? (c : Char) (chars : List Char) : Option (List Char) :=
  match chars with
  | d :: rest => if c = d then some rest else none
  | [] => none

/-- A fraction of a second: nine digits count. -/
def fraction? (chars : List Char) : Option (Nat × List Char) :=
  match chars with
  | '.' :: rest =>
    let digits := rest.takeWhile Char.isDigit
    if digits.isEmpty then none
    else
      let kept := digits.take 9
      some (value kept * Nat.pow 10 (9 - kept.length), rest.dropWhile Char.isDigit)
  | rest => some (0, rest)

/-- Two digits that are a number below `bound`. -/
def pair? (bound : Nat) : List Char → Option (Nat × List Char)
  | a :: b :: rest =>
    if a.isDigit ∧ b.isDigit ∧ value [a, b] < bound then some (value [a, b], rest) else none
  | _ => none

def sign? (c : Char) : Option Int :=
  if c = '+' then some 1 else if c = '-' ∨ c = '\u2212' then some (-1) else none

/-- An offset from UTC in minutes, less than a day. -/
def offset? (chars : List Char) : Option (Int × List Char) :=
  match chars with
  | 'Z' :: rest => some (0, rest)
  | 'z' :: rest => some (0, rest)
  | u :: t :: c :: rest =>
    if [u.toUpper, t.toUpper, c.toUpper] = ['U', 'T', 'C'] then some (0, rest)
    else do
      let sign ← sign? u
      let (hours, rest) ← pair? 100 (t :: c :: rest)
      let (minutes, rest) ← pair? 60 (rest.dropWhile fun c => c = ':' || isBlank c)
      if hours < 24 then some (sign * (hours * 60 + minutes : Nat), rest) else none
  | _ => none

def date? (chars : List Char) : Option (Date × List Char) := do
  let (year, rest) ← year? chars
  let rest ← literal? '-' (skip rest)
  let (month, rest) ← field? 2 rest
  let rest ← literal? '-' (skip rest)
  let (day, rest) ← field? 2 rest
  let date : Date := ⟨year, month, day⟩
  if date.valid ∧ year.natAbs ≤ 262142 then some (date, rest) else none

/-- What stands between the date and the time. -/
def separator? : List Char → Option (List Char)
  | 'T' :: rest => some rest
  | 't' :: rest => some rest
  | ' ' :: rest => some rest
  | _ => none

/-- A time of day: its minute, second and nanosecond. -/
def time? (chars : List Char) : Option ((Nat × Nat × Nat) × List Char) := do
  let (hour, rest) ← field? 2 chars
  let rest ← literal? ':' (skip rest)
  let (minute, rest) ← field? 2 rest
  let rest ← literal? ':' (skip rest)
  let (second, rest) ← field? 2 rest
  let (nanos, rest) ← fraction? rest
  if hour < 24 ∧ minute < 60 ∧ second ≤ 60 then some ((hour * 60 + minute, second, nanos), rest)
  else none

def parse? (chars : List Char) : Option Timestamp := do
  let (date, rest) ← date? chars
  let rest ← separator? rest
  let ((minute, second, nanos), rest) ← time? rest
  let (ahead, rest) ← offset? (skip rest)
  if (skip rest).isEmpty then some (ofLocal date minute second nanos ahead) else none

end Timestamp

end ClusterHarness
