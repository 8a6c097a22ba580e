import ClusterHarness.Duration.Basic
import ClusterHarness.Text.Quoted
import ClusterHarness.Text.Blank

/-!
# Durations as text

The printer writes the nonzero parts of a duration from years down to nanoseconds.  The reader
takes a sum of numbers with units, each with an optional fraction that has to come out even in
the unit's own grain.
-/

namespace ClusterHarness

namespace Duration

def secsPerYear : Nat := 31557600

def secsPerMonth : Nat := 2630016

def secsPerDay : Nat := 86400

/-- A count with a unit that takes an `s` for more than one. -/
def pluralPart (count : Nat) (unit : String) : List String :=
  if count = 0 then []
  else [Nat.repr count ++ unit ++ (if count = 1 then "" else "s")]

def plainPart (count : Nat) (unit : String) : List String :=
  if count = 0 then [] else [Nat.repr count ++ unit]

/-- The parts of a duration that are not zero, `0s` if all are. -/
def text (d : Nat) : String :=
  let s := secs d
  let nanos := subsecNanos d
  let yearRest := s % secsPerYear
  let monthRest := yearRest % secsPerMonth
  let dayRest := monthRest % secsPerDay
  let parts :=
    pluralPart (s / secsPerYear) "year"
      ++ pluralPart (yearRest / secsPerMonth) "month"
      ++ pluralPart (monthRest / secsPerDay) "day"
      ++ plainPart (dayRest / 3600) "h"
      ++ plainPart (dayRest % 3600 / 60) "m"
      ++ plainPart (dayRest % 60) "s"
      ++ plainPart (nanos / 1000000) "ms"
      ++ plainPart (nanos % 1000000 / 1000) "us"
      ++ plainPart (nanos % 1000) "ns"
  if parts.isEmpty then "0s" else " ".intercalate parts

/-! ## Reading -/

/-- Why a text is no duration; positions are offsets in bytes. -/
inductive ReadError where
  | empty
  | numberExpected (offset : Nat)
  | invalidCharacter (offset : Nat)
  | numberTooLarge
  | unitNeeded (number : Nat)
  | unknownUnit (name : String)
  | tooLong
  deriving DecidableEq, Repr

def ReadError.message : ReadError → String
  | .empty => "value was empty"
  | .numberExpected offset => "expected number at " ++ Nat.repr offset
  | .invalidCharacter offset => "invalid character at " ++ Nat.repr offset
  | .numberTooLarge =>
    "number is too large or cannot be represented without a lack of precision "
      ++ "(values below 1ns are not supported)"
  | .unitNeeded number =>
    let n := Nat.repr number
    "time unit needed, for example " ++ n ++ "sec or " ++ n ++ "ms"
  | .unknownUnit name =>
    "unknown time unit " ++ Quoted.encode name
      ++ ", supported units: ns, us/µs, ms, sec, min, hours, days, weeks, months, years "
      ++ "(and few variations)"
  | .tooLong => "overflow in Duration::new"

/-- A unit of time: the nanoseconds in it, if it is a second or less, else the seconds. -/
inductive Unit where
  | nanos (size : Nat)
  | secs (size : Nat)
  deriving DecidableEq, Repr

/-- The grain in which a fraction of a unit has to come out even, and how much of it the unit is;
the smallest unit takes no fraction. -/
inductive Grain where
  | none
  | nanos (size : Nat)
  | secs (size : Nat)
  deriving DecidableEq, Repr

def unit? (name : String) : Option (Unit × Grain) :=
  if name ∈ ["nanos", "nsec", "ns"] then some (.nanos 1, .none)
  else if name ∈ ["usec", "us", "µs"] then some (.nanos 1000, .nanos 1000)
  else if name ∈ ["millis", "msec", "ms"] then some (.nanos 1000000, .nanos 1000000)
  else if name ∈ ["seconds", "second", "secs", "sec", "s"] then
    some (.secs 1, .nanos 1000000000)
  else if name ∈ ["minutes", "minute", "min", "mins", "m"] then
    some (.secs 60, .nanos 60000000000)
  else if name ∈ ["hours", "hour", "hr", "hrs", "h"] then some (.secs 3600, .secs 3600)
  else if name ∈ ["days", "day", "d"] then some (.secs 86400, .secs 86400)
  else if name ∈ ["weeks", "week", "wk", "wks", "w"] then some (.secs 604800, .secs 604800)
  else if name ∈ ["months", "month", "M"] then some (.secs secsPerMonth, .secs secsPerMonth)
  else if name ∈ ["years", "year", "yr", "yrs", "y"] then
    some (.secs secsPerYear, .secs secsPerYear)
  else none

/-- A sum that fits 64 bits. -/
def checked (n : Nat) : Except ReadError Nat :=
  if n < Nat.pow 2 64 then .ok n else .error .numberTooLarge

/-- `part / whole` of a size, if it comes out even. -/
def evenPart (part whole size : Nat) : Except ReadError Nat := do
  let product ← checked (part * size)
  if product % whole = 0 then .ok (product / whole) else .error .numberTooLarge

/-- Adds seconds and nanoseconds to a duration.  The sub-second part carries only when it passes a
full second; a full second itself is carried last, and may be one too many. -/
def accumulate (total addSecs addNanos : Nat) : Except ReadError Nat := do
  let nanos ← checked (subsecNanos total + addNanos)
  let (carry, nanos) :=
    if nanosPerSecond < nanos then (nanos / nanosPerSecond, nanos % nanosPerSecond)
    else (0, nanos)
  let addSecs ← checked (addSecs + carry)
  let whole ← checked (secs total + addSecs)
  if whole + nanos / nanosPerSecond < Nat.pow 2 64 then .ok (whole * nanosPerSecond + nanos)
  else .error .tooLong

def addUnit (total number : Nat) (fraction : Option (Nat × Nat)) (letters : List Char) :
    Except ReadError Nat := do
  let name := String.ofList letters
  if letters.isEmpty then throw (.unitNeeded number)
  match unit? name with
  | none => throw (.unknownUnit name)
  | some (unit, grain) =>
    let total ← match unit with
      | .nanos size => do accumulate total 0 (← checked (number * size))
      | .secs size => do accumulate total (← checked (number * size)) 0
    match fraction, grain with
    | none, _ => .ok total
    | some _, .none => throw .numberTooLarge
    | some (part, whole), .nanos size => do accumulate total 0 (← evenPart part whole size)
    | some (part, whole), .secs size => do accumulate total (← evenPart part whole size) 0

/-- Where a reader is: looking for a number since an offset, in the whole part of a number, in its
fraction (with the offset after what it accepted), or in the letters of a unit, latest first. -/
inductive Stage where
  | seeking (offset : Nat)
  | whole (number : Nat)
  | fraction (number part whole offset : Nat)
  | unit (number : Nat) (fraction : Option (Nat × Nat)) (letters : List Char)

structure Progress where
  total : Nat
  offset : Nat
  stage : Stage

def isUnitLetter (c : Char) : Bool :=
  ('a' ≤ c && c ≤ 'z') || ('A' ≤ c && c ≤ 'Z') || c = 'µ'

def digitOf (c : Char) : Nat := c.toNat - '0'.toNat

def Progress.step (p : Progress) (c : Char) : Except ReadError Progress := do
  let next := p.offset + c.utf8Size
  match p.stage with
  | .seeking offset =>
    if c.isDigit then .ok { p with offset := next, stage := .whole (digitOf c) }
    else if isBlank c then .ok { p with offset := next }
    else throw (.numberExpected offset)
  | .whole number =>
    if c.isDigit then
      let number ← checked (number * 10 + digitOf c)
      .ok { p with offset := next, stage := .whole number }
    else if isBlank c then .ok { p with offset := next }
    else if isUnitLetter c then
      .ok { p with offset := next, stage := .unit number none [c] }
    else if c = '.' then
      .ok { p with offset := next, stage := .fraction number 0 1 p.offset }
    else throw (.invalidCharacter p.offset)
  | .fraction number part whole offset =>
    if c.isDigit then
      let whole ← checked (whole * 10)
      let part ← checked (part * 10 + digitOf c)
      .ok { p with offset := next, stage := .fraction number part whole next }
    else if isBlank c then
      .ok { p with offset := next, stage := .fraction number part whole next }
    else if isUnitLetter c ∧ whole ≠ 1 then
      .ok { p with offset := next, stage := .unit number (some (part, whole)) [c] }
    else throw (.invalidCharacter offset)
  | .unit number fraction letters =>
    if c.isDigit then
      let total ← addUnit p.total number fraction letters.reverse
      .ok { total := total, offset := next, stage := .whole (digitOf c) }
    else if isBlank c then
      let total ← addUnit p.total number fraction letters.reverse
      .ok { total := total, offset := next, stage := .seeking next }
    else if isUnitLetter c then
      .ok { p with offset := next, stage := .unit number fraction (c :: letters) }
    else throw (.invalidCharacter p.offset)

def Progress.finish (p : Progress) : Except ReadError Nat :=
  match p.stage with
  | .seeking 0 => throw .empty
  | .seeking _ => .ok p.total
  | .whole number => addUnit p.total number none []
  | .fraction number part whole offset =>
    if whole = 1 then throw (.invalidCharacter offset)
    else addUnit p.total number (some (part, whole)) []
  | .unit number fraction letters => addUnit p.total number fraction letters.reverse

/-- Reads a duration; the text `0` needs no unit. -/
def read (text : List Char) : Except ReadError Nat := do
  if text = ['0'] then return 0
  let p ← text.foldlM Progress.step ⟨0, 0, .seeking 0⟩
  p.finish

end Duration

end ClusterHarness
