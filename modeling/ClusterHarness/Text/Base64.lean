/-!
# Base64

The standard alphabet with padding.  A text is accepted only in the form that writing gives: whole
groups of four, padding at the end and nothing in the bits it leaves over.
-/

namespace ClusterHarness

namespace Base64

def encodeSextet (n : Nat) : Char :=
  if n < 26 then Char.ofNat (65 + n)
  else if n < 52 then Char.ofNat (71 + n)
  else if n < 62 then Char.ofNat (n - 4)
  else if n = 62 then '+' else '/'

def decodeSextet (c : Char) : Option Nat :=
  let n := c.toNat
  if 65 ≤ n ∧ n ≤ 90 then some (n - 65)
  else if 97 ≤ n ∧ n ≤ 122 then some (n - 71)
  else if 48 ≤ n ∧ n ≤ 57 then some (n + 4)
  else if c = '+' then some 62
  else if c = '/' then some 63 else none

def encode : List UInt8 → List Char
  | [] => []
  | [a] =>
    [encodeSextet (a.toNat / 4), encodeSextet (a.toNat % 4 * 16), '=', '=']
  | [a, b] =>
    [encodeSextet (a.toNat / 4), encodeSextet (a.toNat % 4 * 16 + b.toNat / 16),
      encodeSextet (b.toNat % 16 * 4), '=']
  | a :: b :: c :: rest =>
    encodeSextet (a.toNat / 4) :: encodeSextet (a.toNat % 4 * 16 + b.toNat / 16)
      :: encodeSextet (b.toNat % 16 * 4 + c.toNat / 64) :: encodeSextet (c.toNat % 64)
      :: encode rest

def decodeGroup (a b c d : Char) : Option (List UInt8) := do
  let a ← decodeSextet a
  let b ← decodeSextet b
  let c ← decodeSextet c
  let d ← decodeSextet d
  return [(a * 4 + b / 16).toUInt8, (b % 16 * 16 + c / 4).toUInt8, (c % 4 * 64 + d).toUInt8]

/-- The bytes of the last group, which may be padded. -/
def decodeLast (a b c d : Char) : Option (List UInt8) := do
  if d = '=' then
    let x ← decodeSextet a
    let y ← decodeSextet b
    if c = '=' then
      if y % 16 = 0 then return [(x * 4 + y / 16).toUInt8] else none
    else
      let z ← decodeSextet c
      if z % 4 = 0 then return [(x * 4 + y / 16).toUInt8, (y % 16 * 16 + z / 4).toUInt8]
      else none
  else decodeGroup a b c d

def decode : List Char → Option (List UInt8)
  | [] => some []
  | [a, b, c, d] => decodeLast a b c d
  | a :: b :: c :: d :: rest => do return (← decodeGroup a b c d) ++ (← decode rest)
  | _ => none

end Base64

end ClusterHarness
