import ClusterHarness.Numeric.Binary64

/-!
# Decimal texts of doubles

Two spellings of the fewest digits that read back: `plain` never uses an exponent and drops a
fraction of zero, `scientific` keeps the `.0` of whole numbers and turns to an exponent outside
`10 ^ -5 ≤ x < 10 ^ 16`.  The reader of number literals in documents rounds twice, the digits
first and their product with the power of ten second.
-/

namespace ClusterHarness

namespace Binary64

def digitChars (n : Nat) : List Char := Nat.toDigits 10 n

def zeros (count : Nat) : List Char := List.replicate count '0'

/-- `digits` with a point after the first `whole` of them, zeros filled in on either side. -/
def withPoint (digits : List Char) (whole : Int) : List Char :=
  if whole ≤ 0 then '0' :: '.' :: (zeros (-whole).toNat ++ digits)
  else if (digits.length : Int) ≤ whole then digits ++ zeros (whole.toNat - digits.length)
  else digits.take whole.toNat ++ '.' :: digits.drop whole.toNat

def signed (negative : Bool) (text : List Char) : String :=
  String.ofList (if negative then '-' :: text else text)

/-- Positional notation whatever the size: `-0.5`, `100`, `NaN`, `inf`. -/
def plain : Binary64 → String
  | .nan => "NaN"
  | .infinite n => signed n "inf".toList
  | .finite n m e =>
    if m = 0 then signed n ['0']
    else
      let (digits, place) := shortest m e
      let chars := digitChars digits
      signed n (withPoint chars (chars.length + place))

/-- The digits of an exponent with its sign when negative. -/
def exponentChars (exponent : Int) : List Char :=
  if exponent < 0 then '-' :: digitChars exponent.natAbs else digitChars exponent.natAbs

/-- Notation of documents: `1.0`, `0.00001`, `1e16`, `1.5e-7`. -/
def scientific : Binary64 → String
  | .nan => "NaN"
  | .infinite n => signed n "inf".toList
  | .finite n m e =>
    if m = 0 then signed n "0.0".toList
    else
      let (digits, place) := shortest m e
      let chars := digitChars digits
      let whole : Int := chars.length + place
      if 0 ≤ place ∧ whole ≤ 16 then signed n (withPoint chars whole ++ ['.', '0'])
      else if -5 < whole ∧ whole ≤ 16 then signed n (withPoint chars whole)
      else
        let mantissa := match chars with
          | [] => []
          | [c] => [c]
          | c :: rest => c :: '.' :: rest
        signed n (mantissa ++ 'e' :: exponentChars (whole - 1))

/-- `value` times `10 ^ exponent`, each power of ten and each product rounded; `none` if the
result is too large. -/
def scaleByTen (value : Binary64) (exponent : Int) : Nat → Option Binary64
  | 0 => some value
  | steps + 1 =>
    if exponent.natAbs ≤ 308 then
      let power := ofNat (Nat.pow 10 exponent.natAbs)
      if 0 ≤ exponent then
        let product := value.mul power
        if product.isInfinite then none else some product
      else some (value.div power)
    else if value.isZero then some value
    else if 0 ≤ exponent then none
    else scaleByTen (value.div (ofNat (Nat.pow 10 308))) (exponent + 308) steps

/-- The value of `digits * 10 ^ exponent` as documents are read: the digits are rounded before
they are scaled. -/
def ofLiteral? (negative : Bool) (digits : Nat) (exponent : Int) : Option Binary64 :=
  (scaleByTen (ofNat digits) exponent 5).map fun x => if negative then x.neg else x

end Binary64

end ClusterHarness
