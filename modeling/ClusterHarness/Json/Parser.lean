import ClusterHarness.Json.Basic
import ClusterHarness.Numeric.Decimal

/-!
# Reading JSON text

The whole text has to be one value.  Numbers without fraction and exponent that fit 64 bits are
integers, all others doubles; a number too large for a double is refused, as is nesting deeper
than 127 levels.
-/

namespace ClusterHarness

namespace Json

def skipBlanks : List Char → List Char
  | [] => []
  | c :: rest => if c = ' ' ∨ c = '\n' ∨ c = '\t' ∨ c = '\r' then skipBlanks rest else c :: rest

def hexDigitValue? (c : Char) : Option Nat :=
  if '0' ≤ c ∧ c ≤ '9' then some (c.toNat - '0'.toNat)
  else if 'a' ≤ c ∧ c ≤ 'f' then some (c.toNat - 'a'.toNat + 10)
  else if 'A' ≤ c ∧ c ≤ 'F' then some (c.toNat - 'A'.toNat + 10)
  else none

def hexQuad? : List Char → Option (Nat × List Char)
  | a :: b :: c :: d :: rest => do
    return (((← hexDigitValue? a) * 16 + (← hexDigitValue? b)) * 256
      + (← hexDigitValue? c) * 16 + (← hexDigitValue? d), rest)
  | _ => none

/-- The character an escape stands for; a high surrogate needs its low partner. -/
def unescape? : List Char → Option (Char × List Char)
  | '"' :: rest => some ('"', rest)
  | '\\' :: rest => some ('\\', rest)
  | '/' :: rest => some ('/', rest)
  | 'b' :: rest => some ('\x08', rest)
  | 'f' :: rest => some ('\x0c', rest)
  | 'n' :: rest => some ('\n', rest)
  | 'r' :: rest => some ('\r', rest)
  | 't' :: rest => some ('\t', rest)
  | 'u' :: rest => do
    let (unit, rest) ← hexQuad? rest
    if 0xD800 ≤ unit ∧ unit < 0xDC00 then
      match rest with
      | '\\' :: 'u' :: rest =>
        let (low, rest) ← hexQuad? rest
        if 0xDC00 ≤ low ∧ low < 0xE000 then
          some (Char.ofNat (0x10000 + (unit - 0xD800) * 0x400 + (low - 0xDC00)), rest)
        else none
      | _ => none
    else if 0xDC00 ≤ unit ∧ unit < 0xE000 then none
    else some (Char.ofNat unit, rest)
  | _ => none

/-- The text up to the closing quote. -/
def stringFrom? (taken : List Char) : Nat → List Char → Option (String × List Char)
  | 0, _ => none
  | _ + 1, [] => none
  | fuel + 1, c :: rest =>
    if c = '"' then some (String.ofList taken.reverse, rest)
    else if c = '\\' then do
      let (c, rest) ← unescape? rest
      stringFrom? (c :: taken) fuel rest
    else if c.toNat < 32 then none
    else stringFrom? (c :: taken) fuel rest

def digitValue (c : Char) : Nat := c.toNat - '0'.toNat

/-- Significant digits of a number literal: once another digit would pass 64 bits, digits are
only counted. -/
structure Significand where
  value : Nat := 0
  full : Bool := false
  dropped : Nat := 0

def Significand.push (s : Significand) (c : Char) : Significand :=
  if s.full then { s with dropped := s.dropped + 1 }
  else
    let next := s.value * 10 + digitValue c
    if next < Nat.pow 2 64 then { s with value := next }
    else { s with full := true, dropped := 1 }

/-- The exponent part after its `e`. -/
def exponentPart? (chars : List Char) : Option (Int × List Char) :=
  let (negative, chars) := match chars with
    | '-' :: rest => (true, rest)
    | '+' :: rest => (false, rest)
    | rest => (false, rest)
  let digits := chars.takeWhile Char.isDigit
  if digits.isEmpty then none
  else
    let magnitude := digits.foldl (fun n c => min (n * 10 + digitValue c) (Nat.pow 2 40)) 0
    some (if negative then -(magnitude : Int) else magnitude, chars.dropWhile Char.isDigit)

def numberFrom? (chars : List Char) : Option (Json × List Char) := do
  let (negative, chars) := match chars with
    | '-' :: rest => (true, rest)
    | rest => (false, rest)
  let digits := chars.takeWhile Char.isDigit
  let rest := chars.dropWhile Char.isDigit
  if digits.isEmpty ∨ (1 < digits.length ∧ digits.head? = some '0') then none
  let whole := digits.foldl Significand.push {}
  let fractional := match rest with
    | '.' :: _ => true
    | 'e' :: _ => true
    | 'E' :: _ => true
    | _ => false
  if ¬fractional then
    if ¬whole.full ∧ ¬negative then some (.int whole.value, rest)
    else if ¬whole.full ∧ 0 < whole.value ∧ whole.value ≤ Nat.pow 2 63 then
      some (.int (-(whole.value : Int)), rest)
    else
      let x ← Binary64.ofLiteral? negative whole.value whole.dropped
      some (.float x, rest)
  else
    let (significand, places, rest) ← match rest with
      | '.' :: rest =>
        let fraction := rest.takeWhile Char.isDigit
        if fraction.isEmpty then none
        else
          let all := fraction.foldl Significand.push { value := whole.value }
          let kept := fraction.length - all.dropped
          some (all.value, (whole.dropped : Int) - kept, rest.dropWhile Char.isDigit)
      | rest => some (whole.value, (whole.dropped : Int), rest)
    let (exponent, rest) ← match rest with
      | 'e' :: rest => exponentPart? rest
      | 'E' :: rest => exponentPart? rest
      | rest => some (0, rest)
    if significand = 0 then some (.float (Binary64.zero negative), rest)
    else
      let x ← Binary64.ofLiteral? negative significand (places + exponent)
      some (.float x, rest)

mutual

/-- One value, nested at most `depth` levels. -/
def valueFrom? (depth : Nat) : Nat → List Char → Option (Json × List Char)
  | 0, _ => none
  | fuel + 1, chars =>
    match skipBlanks chars with
    | 'n' :: 'u' :: 'l' :: 'l' :: rest => some (.null, rest)
    | 't' :: 'r' :: 'u' :: 'e' :: rest => some (.bool true, rest)
    | 'f' :: 'a' :: 'l' :: 's' :: 'e' :: rest => some (.bool false, rest)
    | '"' :: rest => (stringFrom? [] (rest.length + 1) rest).map fun (s, rest) => (.str s, rest)
    | '[' :: rest =>
      if depth = 0 then none
      else match skipBlanks rest with
        | ']' :: rest => some (.arr [], rest)
        | rest => itemsFrom? (depth - 1) [] fuel rest
    | '\x7b' :: rest =>
      if depth = 0 then none
      else match skipBlanks rest with
        | '\x7d' :: rest => some (.obj [], rest)
        | rest => membersFrom? (depth - 1) [] fuel rest
    | rest => numberFrom? rest

/-- The items of an array up to its end, those before in reverse. -/
def itemsFrom? (depth : Nat) (before : List Json) : Nat → List Char → Option (Json × List Char)
  | 0, _ => none
  | fuel + 1, chars => do
    let (item, rest) ← valueFrom? depth fuel chars
    match skipBlanks rest with
    | ',' :: rest => itemsFrom? depth (item :: before) fuel rest
    | ']' :: rest => some (.arr (item :: before).reverse, rest)
    | _ => none

/-- The members of an object up to its end, those before in reverse. -/
def membersFrom? (depth : Nat) (before : List (String × Json)) :
    Nat → List Char → Option (Json × List Char)
  | 0, _ => none
  | fuel + 1, chars =>
    match skipBlanks chars with
    | '"' :: rest => do
      let (name, rest) ← stringFrom? [] (rest.length + 1) rest
      match skipBlanks rest with
      | ':' :: rest =>
        let (value, rest) ← valueFrom? depth fuel rest
        match skipBlanks rest with
        | ',' :: rest => membersFrom? depth ((name, value) :: before) fuel rest
        | '\x7d' :: rest => some (.obj ((name, value) :: before).reverse, rest)
        | _ => none
      | _ => none
    | _ => none

end

/-- The value a text spells, or `none` if it spells none. -/
def parse? (text : String) : Option Json :=
  let chars := text.toList
  match valueFrom? 127 (chars.length + 1) chars with
  | some (value, rest) => if (skipBlanks rest).isEmpty then some value else none
  | none => none

end Json

end ClusterHarness
