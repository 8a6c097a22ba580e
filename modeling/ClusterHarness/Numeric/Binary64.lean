/-!
# Binary floating-point numbers of double width

A number is kept as an exact value, a sign, a significand and a power of two, so that every
operation is arithmetic on `Nat` followed by one rounding.  The nearest representable value is
taken, and a quotient halfway between two of them goes to the one with the even significand.
-/

namespace ClusterHarness

/-- A double: `finite n m e` is `m * 2 ^ e`, negated when `n`. -/
inductive Binary64 where
  | nan
  | infinite (negative : Bool)
  | finite (negative : Bool) (significand : Nat) (exponent : Int)
  deriving DecidableEq, Repr, Inhabited

namespace Binary64

/-- The exponent of the smallest positive double, and of every subnormal one. -/
def leastExponent : Int := -1074

/-- The exponent of the largest finite doubles. -/
def greatestExponent : Int := 971

/-- The quotient rounded to the nearest integer, a half to the even one. -/
def roundQuotient (num den : Nat) : Nat :=
  let q := num / den
  let r := num % den
  if 2 * r < den then q
  else if den < 2 * r then q + 1
  else if q % 2 = 0 then q else q + 1

/-- Numerator and denominator of `num / den` divided by `2 ^ exponent`. -/
def shifted (num den : Nat) (exponent : Int) : Nat × Nat :=
  if 0 ≤ exponent then (num, den * Nat.pow 2 exponent.toNat)
  else (num * Nat.pow 2 (-exponent).toNat, den)

/-- The greatest power of two that is not above the positive ratio `num / den`. -/
def binaryMagnitude (num den : Nat) : Int :=
  let estimate : Int := (Nat.log2 num : Int) - Nat.log2 den
  let (n, d) := shifted num den estimate
  if d ≤ n then estimate else estimate - 1

def zero (negative : Bool) : Binary64 := .finite negative 0 leastExponent

/-- The double nearest to the ratio `num / den`. -/
def ofRatio (negative : Bool) (num den : Nat) : Binary64 :=
  if num = 0 then zero negative
  else
    let exponent := max leastExponent (binaryMagnitude num den - 52)
    let (n, d) := shifted num den exponent
    let significand := roundQuotient n d
    if significand = Nat.pow 2 53 then
      if exponent + 1 > greatestExponent then .infinite negative
      else .finite negative (Nat.pow 2 52) (exponent + 1)
    else if exponent > greatestExponent then .infinite negative
    else .finite negative significand exponent

def ofNat (n : Nat) : Binary64 := ofRatio false n 1

/-- The double nearest to `digits * 10 ^ exponent`. -/
def ofDecimal (negative : Bool) (digits : Nat) (exponent : Int) : Binary64 :=
  let places : Int := exponent + (Nat.toDigits 10 digits).length
  if digits = 0 then zero negative
  else if 310 < places then .infinite negative
  else if places < -330 then zero negative
  else if 0 ≤ exponent then ofRatio negative (digits * Nat.pow 10 exponent.toNat) 1
  else ofRatio negative digits (Nat.pow 10 (-exponent).toNat)

def ratio (significand : Nat) (exponent : Int) : Nat × Nat :=
  if 0 ≤ exponent then (significand * Nat.pow 2 exponent.toNat, 1)
  else (significand, Nat.pow 2 (-exponent).toNat)

def isFinite : Binary64 → Bool
  | .finite .. => true
  | _ => false

def isInfinite : Binary64 → Bool
  | .infinite _ => true
  | _ => false

def isZero : Binary64 → Bool
  | .finite _ 0 _ => true
  | _ => false

def neg : Binary64 → Binary64
  | .nan => .nan
  | .infinite n => .infinite !n
  | .finite n m e => .finite (!n) m e

/-- Whether the number is zero of either sign or above it; false of a NaN. -/
def isNonnegative : Binary64 → Bool
  | .nan => false
  | .infinite n => !n
  | .finite n m _ => !n || m == 0

/-- Numerical equality: the two zeros are equal and a NaN differs from itself. -/
def numericEq : Binary64 → Binary64 → Bool
  | .nan, _ => false
  | _, .nan => false
  | x, y => x == y || (x.isZero && y.isZero)

def mul : Binary64 → Binary64 → Binary64
  | .nan, _ => .nan
  | _, .nan => .nan
  | .infinite n, .infinite k => .infinite (n != k)
  | .infinite n, .finite k m _ => if m = 0 then .nan else .infinite (n != k)
  | .finite n m _, .infinite k => if m = 0 then .nan else .infinite (n != k)
  | .finite n m e, .finite k l f =>
    let (a, b) := ratio m e
    let (c, d) := ratio l f
    ofRatio (n != k) (a * c) (b * d)

def div : Binary64 → Binary64 → Binary64
  | .nan, _ => .nan
  | _, .nan => .nan
  | .infinite _, .infinite _ => .nan
  | .infinite n, .finite k _ _ => .infinite (n != k)
  | .finite n _ _, .infinite k => zero (n != k)
  | .finite n m e, .finite k l f =>
    if l = 0 then (if m = 0 then .nan else .infinite (n != k))
    else
      let (a, b) := ratio m e
      let (c, d) := ratio l f
      ofRatio (n != k) (a * d) (b * c)

def addMagnitudes : Binary64 → Binary64 → Binary64
  | .finite _ m e, .finite _ l f =>
    let (a, b) := ratio m e
    let (c, d) := ratio l f
    ofRatio false (a * d + c * b) (b * d)
  | _, _ => .nan

/-- The nearest integer to a nonnegative finite double scaled by `factor`, a half to even. -/
def scaledRound (factor : Nat) : Binary64 → Option Nat
  | .finite false m e =>
    let (a, b) := ratio m e
    some (roundQuotient (a * factor) b)
  | .finite true 0 _ => some 0
  | _ => none

/-- `low` and `high` bound, in quarters of the last place, the reals that round to the double. -/
structure RoundingInterval where
  low : Nat
  high : Nat
  closed : Bool

def roundingInterval (significand : Nat) (exponent : Int) : RoundingInterval where
  low := if significand = Nat.pow 2 52 ∧ leastExponent < exponent then 4 * significand - 1
    else 4 * significand - 2
  high := 4 * significand + 2
  closed := significand % 2 == 0

/-- The exponent of the leading decimal digit of a positive finite double. -/
def decimalMagnitude (significand : Nat) (exponent : Int) : Int :=
  let estimate : Int := ((Nat.log2 significand : Int) + exponent) * 30103 / 100000
  let (n, d) := ratio significand exponent
  let reaches (power : Int) : Bool :=
    if 0 ≤ power then d * Nat.pow 10 power.toNat ≤ n else d ≤ n * Nat.pow 10 (-power).toNat
  if reaches (estimate + 1) then estimate + 1
  else if reaches estimate then estimate else estimate - 1

/-- The multiple of `10 ^ place` nearest to the double, if one rounds to it. -/
def digitsAt? (significand : Nat) (exponent : Int) (place : Int) : Option Nat :=
  let interval := roundingInterval significand exponent
  let (n, d) := ratio 1 (exponent - 2)
  let (unit, grid) :=
    if 0 ≤ place then (n, d * Nat.pow 10 place.toNat) else (n * Nat.pow 10 (-place).toNat, d)
  let value := 4 * significand * unit
  let inside (candidate : Nat) : Bool :=
    if interval.closed then
      interval.low * unit ≤ candidate * grid && candidate * grid ≤ interval.high * unit
    else interval.low * unit < candidate * grid && candidate * grid < interval.high * unit
  let below := value / grid
  let above := below + 1
  match inside below, inside above with
  | false, false => none
  | true, false => some below
  | false, true => some above
  | true, true =>
    let down := value - below * grid
    let up := above * grid - value
    if down < up then some below
    else if up < down then some above
    else if below % 2 = 0 then some below else some above

/-- Drops the trailing zeros of a digit string, raising its exponent. -/
def trimZeros (digits : Nat) (place : Int) : Nat → Nat × Int
  | 0 => (digits, place)
  | steps + 1 =>
    if digits ≠ 0 ∧ digits % 10 = 0 then trimZeros (digits / 10) (place + 1) steps
    else (digits, place)

/-- Searches the decimal grids from `places` digits on. -/
def shortestFrom (significand : Nat) (exponent magnitude : Int) (places : Nat) :
    Nat → Nat × Int
  | 0 => (significand, 0)
  | steps + 1 =>
    let place := magnitude + 1 - places
    match digitsAt? significand exponent place with
    | some digits => trimZeros digits place 17
    | none => shortestFrom significand exponent magnitude (places + 1) steps

/-- The fewest decimal digits that round to a positive finite double, nearest first, as
`digits * 10 ^ place`. -/
def shortest (significand : Nat) (exponent : Int) : Nat × Int :=
  shortestFrom significand exponent (decimalMagnitude significand exponent) 1 17

end Binary64

end ClusterHarness
