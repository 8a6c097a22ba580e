/-!
# Reading bytes as UTF-8

The reader stops at the first fault and says where it is and how many bytes are at fault; a
sequence cut short by the end of the bytes has no such count.
-/

namespace ClusterHarness

namespace Utf8

/-- The first fault in bytes: its offset, and the number of bytes at fault unless more bytes could
have mended it. -/
structure Fault where
  offset : Nat
  length : Option Nat
  deriving DecidableEq, Repr

def Fault.message (fault : Fault) : String :=
  match fault.length with
  | some n =>
    "invalid utf-8 sequence of " ++ Nat.repr n ++ " bytes from index " ++ Nat.repr fault.offset
  | none => "incomplete utf-8 byte sequence from index " ++ Nat.repr fault.offset

/-- The range of the second byte after a lead byte, and how many bytes follow the lead. -/
def lead? (b : Nat) : Option (Nat × Nat × Nat) :=
  if 0xc2 ≤ b ∧ b ≤ 0xdf then some (0x80, 0xbf, 1)
  else if b = 0xe0 then some (0xa0, 0xbf, 2)
  else if b = 0xed then some (0x80, 0x9f, 2)
  else if 0xe1 ≤ b ∧ b ≤ 0xef then some (0x80, 0xbf, 2)
  else if b = 0xf0 then some (0x90, 0xbf, 3)
  else if 0xf1 ≤ b ∧ b ≤ 0xf3 then some (0x80, 0xbf, 3)
  else if b = 0xf4 then some (0x80, 0x8f, 3)
  else none

/-- A sequence being read: the code so far, how many bytes it has, how many are missing, and the
range the next byte has to lie in. -/
structure Pending where
  code : Nat
  taken : Nat
  missing : Nat
  low : Nat
  high : Nat

/-- The payload of a lead byte that announces so many continuation bytes. -/
def leadBits (b continuations : Nat) : Nat :=
  match continuations with
  | 1 => b % 0x20
  | 2 => b % 0x10
  | _ => b % 0x08

def decodeFrom (offset : Nat) (pending : Option Pending) (before : List Char) :
    List UInt8 → Except Fault (List Char)
  | [] =>
    match pending with
    | none => .ok before.reverse
    | some p => .error ⟨offset - p.taken, none⟩
  | byte :: rest =>
    let b := byte.toNat
    match pending with
    | none =>
      if b < 0x80 then decodeFrom (offset + 1) none (Char.ofNat b :: before) rest
      else match lead? b with
        | some (low, high, missing) =>
          decodeFrom (offset + 1) (some ⟨leadBits b missing, 1, missing, low, high⟩) before rest
        | none => .error ⟨offset, some 1⟩
    | some p =>
      if p.low ≤ b ∧ b ≤ p.high then
        let code := p.code * 64 + b % 64
        if p.missing = 1 then decodeFrom (offset + 1) none (Char.ofNat code :: before) rest
        else
          decodeFrom (offset + 1)
            (some ⟨code, p.taken + 1, p.missing - 1, 0x80, 0xbf⟩) before rest
      else .error ⟨offset - p.taken, some p.taken⟩

def decode (bytes : List UInt8) : Except Fault String :=
  (decodeFrom 0 none [] bytes).map String.ofList

/-- A byte outside of any sequence: a character, or the start of a sequence. -/
def start (b : Nat) : Char ⊕ Pending :=
  if b < 0x80 then .inl (Char.ofNat b)
  else match lead? b with
    | some (low, high, missing) => .inr ⟨leadBits b missing, 1, missing, low, high⟩
    | none => .inl '\ufffd'

def decodeLossyFrom (pending : Option Pending) (before : List Char) : List UInt8 → List Char
  | [] => (if pending.isSome then '\ufffd' :: before else before).reverse
  | byte :: rest =>
    let b := byte.toNat
    let fresh (before : List Char) : List Char :=
      match start b with
      | .inl c => decodeLossyFrom none (c :: before) rest
      | .inr p => decodeLossyFrom (some p) before rest
    match pending with
    | none => fresh before
    | some p =>
      if p.low ≤ b ∧ b ≤ p.high then
        let code := p.code * 64 + b % 64
        if p.missing = 1 then decodeLossyFrom none (Char.ofNat code :: before) rest
        else decodeLossyFrom (some ⟨code, p.taken + 1, p.missing - 1, 0x80, 0xbf⟩) before rest
      else fresh ('\ufffd' :: before)

/-- The text that bytes encode, with U+FFFD for each sequence at fault. -/
def decodeLossy (bytes : List UInt8) : String := String.ofList (decodeLossyFrom none [] bytes)

def encodeChar (c : Char) : List UInt8 :=
  let n := c.toNat
  if n < 0x80 then [n.toUInt8]
  else if n < 0x800 then [(0xc0 + n / 64).toUInt8, (0x80 + n % 64).toUInt8]
  else if n < 0x10000 then
    [(0xe0 + n / 4096).toUInt8, (0x80 + n / 64 % 64).toUInt8, (0x80 + n % 64).toUInt8]
  else
    [(0xf0 + n / 262144).toUInt8, (0x80 + n / 4096 % 64).toUInt8, (0x80 + n / 64 % 64).toUInt8,
      (0x80 + n % 64).toUInt8]

def encode (text : String) : List UInt8 := text.toList.flatMap encodeChar

end Utf8

end ClusterHarness
