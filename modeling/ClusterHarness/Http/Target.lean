import ClusterHarness.Text.Blank
import ClusterHarness.Text.Utf8

/-!
# Request targets

A target is a path and a list of query parameters.  Names are put into paths as they are, so a `?`
or `#` in one ends the path early; characters that no path or query may hold make the target
invalid.
-/

namespace ClusterHarness

structure Target where
  path : String
  query : List (String × String)
  deriving DecidableEq, Repr

namespace Target

/-- Characters that may stand in a path as they are. -/
def pathChar (c : Char) : Bool :=
  let n := c.toNat
  n = 0x21 || n = 0x22 || (0x24 ≤ n && n ≤ 0x3b) || n = 0x3d || (0x40 ≤ n && n ≤ 0x5f)
    || (0x61 ≤ n && n ≤ 0x7e) || 0x7f ≤ n

/-- Characters that may stand in a query as they are. -/
def queryChar (c : Char) : Bool :=
  let n := c.toNat
  n = 0x21 || (0x24 ≤ n && n ≤ 0x3b) || n = 0x3d || 0x3f ≤ n

/-- The parameters of a query, joined as a form is. -/
def formSafe (b : UInt8) : Bool :=
  let c := Char.ofNat b.toNat
  b < 0x80 && (c.isAlphanum || c = '*' || c = '-' || c = '.' || c = '_')

def upperHex (n : Nat) : Char := (Nat.digitChar (n % 16)).toUpper

def percent (b : UInt8) : List Char := ['%', upperHex (b.toNat / 16), upperHex b.toNat]

def formChar (b : UInt8) : List Char :=
  if formSafe b then [Char.ofNat b.toNat]
  else if b = 0x20 then ['+'] else percent b

def formText (text : String) : List Char := (Utf8.encode text).flatMap formChar

def formPairs (pairs : List (String × String)) : List Char :=
  pairs.flatMap fun p => '&' :: (formText p.1 ++ '=' :: formText p.2)

def hexValue? (c : Char) : Option Nat :=
  if '0' ≤ c ∧ c ≤ '9' then some (c.toNat - '0'.toNat)
  else if 'a' ≤ c ∧ c ≤ 'f' then some (c.toNat - 'a'.toNat + 10)
  else if 'A' ≤ c ∧ c ≤ 'F' then some (c.toNat - 'A'.toNat + 10)
  else none

/-- Bytes of a text with its percent escapes undone. -/
def unescape : List Char → List UInt8
  | '%' :: a :: b :: rest =>
    match hexValue? a, hexValue? b with
    | some x, some y => (16 * x + y).toUInt8 :: unescape rest
    | _, _ => 0x25 :: unescape (a :: b :: rest)
  | c :: rest => Utf8.encodeChar c ++ unescape rest
  | [] => []
  termination_by chars => chars.length

def formDecode (chars : List Char) : String :=
  Utf8.decodeLossy (unescape (chars.map fun c => if c = '+' then ' ' else c))

def formParse (query : List Char) : List (String × String) :=
  ((Text.split '&' query).filter (¬·.isEmpty)).map fun piece =>
    match Text.cut '=' piece with
    | some (name, value) => (formDecode name, formDecode value)
    | none => (formDecode piece, "")

/-- The target with this path, whatever characters it holds, and these parameters. -/
def make (path : String) (query : List (String × String)) : Option Target :=
  let chars := path.toList
  if chars.all pathChar then some ⟨path, query⟩
  else
    let sent := (chars ++ '?' :: formPairs query).takeWhile (· ≠ '#')
    let before := sent.takeWhile (· ≠ '?')
    let after := (sent.dropWhile (· ≠ '?')).drop 1
    if before.all pathChar ∧ after.all queryChar then
      some ⟨String.ofList before, formParse after⟩
    else none

end Target

end ClusterHarness
