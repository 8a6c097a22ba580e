import ClusterHarness.Text.Utf8

/-!
# Texts as bytes and back

What a text is encoded as is read as that text.  The reader is followed byte by byte: a byte is a
character of its own, or leads a sequence that the bytes after it go on with and end.
-/

namespace ClusterHarness

namespace Utf8

theorem toNat_toUInt8 {n : Nat} (small : n < 256) : n.toUInt8.toNat = n := by
  simp [Nat.mod_eq_of_lt small]

variable (offset : Nat) (pending : Pending) (before : List Char) (rest : List UInt8)

theorem decodeFrom_single {b : Nat} (single : b < 0x80) :
    decodeFrom offset none before (b.toUInt8 :: rest) =
      decodeFrom (offset + 1) none (Char.ofNat b :: before) rest := by
  rw [decodeFrom, toNat_toUInt8 (by omega)]
  simp [single]

theorem decodeFrom_lead {b low high missing : Nat} (small : b < 256) (lead : 0x80 ≤ b)
    (announces : lead? b = some (low, high, missing)) :
    decodeFrom offset none before (b.toUInt8 :: rest) =
      decodeFrom (offset + 1) (some ⟨leadBits b missing, 1, missing, low, high⟩) before rest := by
  rw [decodeFrom, toNat_toUInt8 small]
  simp [Nat.not_lt.mpr lead, announces]

theorem decodeFrom_middle {b : Nat} (small : b < 256)
    (within : pending.low ≤ b ∧ b ≤ pending.high) (more : pending.missing ≠ 1) :
    decodeFrom offset (some pending) before (b.toUInt8 :: rest) =
      decodeFrom (offset + 1) (some ⟨pending.code * 64 + b % 64, pending.taken + 1,
        pending.missing - 1, 0x80, 0xbf⟩) before rest := by
  rw [decodeFrom, toNat_toUInt8 small]
  simp [within, more]

theorem decodeFrom_last {b : Nat} (small : b < 256)
    (within : pending.low ≤ b ∧ b ≤ pending.high) (last : pending.missing = 1) :
    decodeFrom offset (some pending) before (b.toUInt8 :: rest) =
      decodeFrom (offset + 1) none (Char.ofNat (pending.code * 64 + b % 64) :: before) rest := by
  rw [decodeFrom, toNat_toUInt8 small]
  simp [within, last]

/-- A lead of three bytes; after the least one and the one of the surrogates the range is cut. -/
theorem lead?_three {b : Nat} (least : 0xe0 ≤ b) (greatest : b ≤ 0xef) :
    ∃ low high, lead? b = some (low, high, 2) ∧
      (low = 0x80 ∨ b = 0xe0 ∧ low = 0xa0) ∧ (high = 0xbf ∨ b = 0xed ∧ high = 0x9f) := by
  unfold lead?
  rw [if_neg (by omega)]
  by_cases first : b = 0xe0
  · exact ⟨_, _, if_pos first, Or.inr ⟨first, rfl⟩, Or.inl rfl⟩
  · rw [if_neg first]
    by_cases surrogates : b = 0xed
    · exact ⟨_, _, if_pos surrogates, Or.inl rfl, Or.inr ⟨surrogates, rfl⟩⟩
    · rw [if_neg surrogates]
      exact ⟨_, _, if_pos (by omega), Or.inl rfl, Or.inl rfl⟩

/-- A lead of four bytes; after the least and the greatest one the range is cut. -/
theorem lead?_four {b : Nat} (least : 0xf0 ≤ b) (greatest : b ≤ 0xf4) :
    ∃ low high, lead? b = some (low, high, 3) ∧
      (low = 0x80 ∨ b = 0xf0 ∧ low = 0x90) ∧ (high = 0xbf ∨ b = 0xf4 ∧ high = 0x8f) := by
  unfold lead?
  rw [if_neg (by omega), if_neg (by omega), if_neg (by omega), if_neg (by omega)]
  by_cases first : b = 0xf0
  · exact ⟨_, _, if_pos first, Or.inr ⟨first, rfl⟩, Or.inl rfl⟩
  · rw [if_neg first]
    by_cases last : b = 0xf4
    · rw [if_neg (by omega)]
      exact ⟨_, _, if_pos last, Or.inl rfl, Or.inr ⟨last, rfl⟩⟩
    · exact ⟨_, _, if_pos (by omega), Or.inl rfl, Or.inl rfl⟩

/-- The bytes of a character are read as that character. -/
theorem decodeFrom_encodeChar (c : Char) :
    ∃ after, decodeFrom offset none before (encodeChar c ++ rest) =
      decodeFrom after none (c :: before) rest := by
  have valid : c.toNat < 0xd800 ∨ 0xdfff < c.toNat ∧ c.toNat < 0x110000 := c.valid
  have same := Char.ofNat_toNat c
  unfold encodeChar
  generalize c.toNat = n at valid same
  subst same
  dsimp only
  split
  · next one => exact ⟨_, decodeFrom_single offset before rest one⟩
  split
  · next two =>
    refine ⟨offset + 1 + 1, ?_⟩
    have announces : lead? (0xc0 + n / 64) = some (0x80, 0xbf, 1) := by
      unfold lead?
      exact if_pos (by omega)
    have code : leadBits (0xc0 + n / 64) 1 * 64 + (0x80 + n % 64) % 64 = n := by
      simp only [leadBits]
      omega
    rw [List.cons_append, decodeFrom_lead _ _ _ (by omega) (by omega) announces, List.cons_append,
      decodeFrom_last _ _ _ _ (by omega) (by dsimp only; omega) rfl, code]
    rfl
  split
  · next three =>
    refine ⟨offset + 1 + 1 + 1, ?_⟩
    obtain ⟨low, high, announces, above, below⟩ :=
      lead?_three (b := 0xe0 + n / 4096) (by omega) (by omega)
    have code : (leadBits (0xe0 + n / 4096) 2 * 64 + (0x80 + n / 64 % 64) % 64) * 64
        + (0x80 + n % 64) % 64 = n := by
      simp only [leadBits]
      omega
    rw [List.cons_append, decodeFrom_lead _ _ _ (by omega) (by omega) announces, List.cons_append,
      decodeFrom_middle _ _ _ _ (by omega) (by dsimp only; omega) (by simp), List.cons_append,
      decodeFrom_last _ _ _ _ (by omega) (by dsimp only; omega) rfl, code]
    rfl
  · refine ⟨offset + 1 + 1 + 1 + 1, ?_⟩
    obtain ⟨low, high, announces, above, below⟩ :=
      lead?_four (b := 0xf0 + n / 262144) (by omega) (by omega)
    have code : ((leadBits (0xf0 + n / 262144) 3 * 64 + (0x80 + n / 4096 % 64) % 64) * 64
        + (0x80 + n / 64 % 64) % 64) * 64 + (0x80 + n % 64) % 64 = n := by
      simp only [leadBits]
      omega
    rw [List.cons_append, decodeFrom_lead _ _ _ (by omega) (by omega) announces, List.cons_append,
      decodeFrom_middle _ _ _ _ (by omega) (by dsimp only; omega) (by simp), List.cons_append,
      decodeFrom_middle _ _ _ _ (by omega) (by dsimp only; omega) (by simp), List.cons_append,
      decodeFrom_last _ _ _ _ (by omega) (by dsimp only; omega) rfl, code]
    rfl

theorem decodeFrom_flatMap_encodeChar (chars : List Char) :
    decodeFrom offset none before (chars.flatMap encodeChar) = .ok (before.reverse ++ chars) := by
  induction chars generalizing offset before with
  | nil => simp [decodeFrom]
  | cons c chars ih =>
      obtain ⟨after, read⟩ := decodeFrom_encodeChar offset before (chars.flatMap encodeChar) c
      rw [List.flatMap_cons, read, ih]
      simp

theorem decode_encode (text : String) : decode (encode text) = .ok text := by
  rw [decode, encode, decodeFrom_flatMap_encodeChar]
  simp [Except.map]

end Utf8

end ClusterHarness
