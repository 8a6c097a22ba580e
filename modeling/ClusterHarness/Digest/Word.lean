/-!
# Words of a digest

Messages as blocks of words: the message is closed by a one bit, zeros, and its length in bits.
-/

namespace ClusterHarness

namespace Digest

def rotateLeft (x : UInt32) (n : UInt32) : UInt32 := (x <<< n) ||| (x >>> (32 - n))

def rotateRight (x : UInt32) (n : UInt32) : UInt32 := (x >>> n) ||| (x <<< (32 - n))

/-- The bytes of a word, most significant first. -/
def bytesOfWord (w : UInt32) : List UInt8 :=
  [(w >>> 24).toUInt8, (w >>> 16).toUInt8, (w >>> 8).toUInt8, w.toUInt8]

/-- A word from four bytes, most significant first. -/
def wordOfBytes (a b c d : UInt8) : UInt32 :=
  (a.toUInt32 <<< 24) ||| (b.toUInt32 <<< 16) ||| (c.toUInt32 <<< 8) ||| d.toUInt32

/-- The bytes of a count of bits in 64 bits, most significant first. -/
def lengthBytes (bits : Nat) : List UInt8 :=
  bytesOfWord (bits / Nat.pow 2 32).toUInt32 ++ bytesOfWord bits.toUInt32

/-- The closing bytes of a message of some length: a one bit and zeros up to eight bytes short of
a block of 64. -/
def closing (length : Nat) : List UInt8 :=
  0x80 :: List.replicate ((119 - length % 64) % 64) 0

/-- Words in order of their most significant bytes. -/
def wordsBig : List UInt8 → List UInt32
  | a :: b :: c :: d :: rest => wordOfBytes a b c d :: wordsBig rest
  | _ => []

/-- Words in order of their least significant bytes. -/
def wordsLittle : List UInt8 → List UInt32
  | a :: b :: c :: d :: rest => wordOfBytes d c b a :: wordsLittle rest
  | _ => []

/-- Groups of sixteen words; `count` bounds their number. -/
def blocks : Nat → List UInt32 → List (List UInt32)
  | 0, _ => []
  | count + 1, words =>
    if words.isEmpty then [] else words.take 16 :: blocks count (words.drop 16)

def hexDigit (n : UInt8) : Char := Nat.digitChar (n.toNat % 16)

/-- Lower case hexadecimal. -/
def hex (bytes : List UInt8) : String :=
  String.ofList (bytes.flatMap fun b => [hexDigit (b / 16), hexDigit b])

end Digest

end ClusterHarness
