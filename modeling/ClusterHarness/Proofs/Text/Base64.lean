import ClusterHarness.Proofs.Text.Utf8
import ClusterHarness.Text.Base64
import Mathlib.Algebra.Ring.Nat

/-!
# Bytes in base64

In base64 the bits of the bytes are the bits of the characters' values, six for each; zeros fill up
the last one, and padding the last group of four.  There is one such text for any bytes.  It is
what they are written as, and nothing else is read as them.
-/

namespace ClusterHarness

/-- The lowest bits of a number, the highest of them first. -/
def bitsOf : Nat → Nat → List Bool
  | 0, _ => []
  | width + 1, n => bitsOf width (n / 2) ++ [decide (n % 2 = 1)]

theorem length_bitsOf (width n : Nat) : (bitsOf width n).length = width := by
  induction width generalizing n with
  | zero => rfl
  | succ width ih => rw [bitsOf, List.length_append, ih, List.length_singleton]

/-- The bits of a number are those of its high part and those of its low part. -/
theorem bitsOf_add (high low m : Nat) {n : Nat} (small : n < 2 ^ low) :
    bitsOf (high + low) (m * 2 ^ low + n) = bitsOf high m ++ bitsOf low n := by
  induction low generalizing n with
  | zero =>
      have none : n = 0 := Nat.lt_one_iff.mp small
      rw [none, bitsOf, List.append_nil, Nat.pow_zero, Nat.mul_one]
      rfl
  | succ low ih =>
      rw [Nat.pow_succ] at small ⊢
      have half : (m * (2 ^ low * 2) + n) / 2 = m * 2 ^ low + n / 2 := by
        rw [← Nat.mul_assoc]
        omega
      have last : (m * (2 ^ low * 2) + n) % 2 = n % 2 := by
        rw [← Nat.mul_assoc]
        omega
      rw [← Nat.add_assoc, bitsOf, half, last, ih (by omega), bitsOf, List.append_assoc]

theorem bitsOf_div_mod (high low n : Nat) :
    bitsOf (high + low) n = bitsOf high (n / 2 ^ low) ++ bitsOf low (n % 2 ^ low) := by
  rw [← bitsOf_add _ _ _ (Nat.mod_lt n (Nat.two_pow_pos low)), Nat.div_add_mod']

theorem bitsOf_zero (width : Nat) : bitsOf width 0 = List.replicate width false := by
  induction width with
  | zero => rfl
  | succ width ih => rw [bitsOf, Nat.zero_div, ih, List.replicate_succ']; rfl

/-- A number is known by its bits, if there are no more of them. -/
theorem bitsOf_inj {width m n : Nat} (small : m < 2 ^ width) (small' : n < 2 ^ width)
    (same : bitsOf width m = bitsOf width n) : m = n := by
  induction width generalizing m n with
  | zero => omega
  | succ width ih =>
      rw [Nat.pow_succ] at small small'
      obtain ⟨high, low⟩ := List.append_inj' same rfl
      have half := ih (by omega) (by omega) high
      have last := decide_eq_decide.mp (List.singleton_inj.mp low)
      omega

namespace Base64

def alphabet : String := "ABCDEFGHIJKLMNOPQRSTUVWXYZabcdefghijklmnopqrstuvwxyz0123456789+/"

theorem length_alphabet : alphabet.toList.length = 64 := by decide

def symbol (value : Fin 64) : Char := alphabet.toList.get (value.cast length_alphabet.symm)

/-- The text is the bytes in base64, with zeros for the bits that are left over and with padding. -/
def Writes (bytes : List UInt8) (text : List Char) : Prop :=
  ∃ (values : List (Fin 64)) (zeros pads : Nat), zeros < 6 ∧ pads < 4 ∧ 4 ∣ text.length ∧
    text = values.map symbol ++ List.replicate pads '=' ∧
    values.flatMap (fun value => bitsOf 6 value.val) =
      bytes.flatMap (fun byte => bitsOf 8 byte.toNat) ++ List.replicate zeros false

/-- The text is something in base64. -/
def Canonical (text : List Char) : Prop := ∃ bytes, Writes bytes text

theorem encodeSextet_eq_symbol : ∀ value : Fin 64, encodeSextet value = symbol value := by
  decide +kernel

theorem decodeSextet_encodeSextet : ∀ n < 64, decodeSextet (encodeSextet n) = some n := by
  decide +kernel

theorem encodeSextet_ne_pad : ∀ n < 64, encodeSextet n ≠ '=' := by
  decide +kernel

theorem encodeSextet_of_decodeSextet {c : Char} {n : Nat} (read : decodeSextet c = some n) :
    n < 64 ∧ encodeSextet n = c := by
  have same := Char.ofNat_toNat c
  unfold decodeSextet at read
  dsimp only at read
  split at read
  · next upper =>
      cases read
      refine ⟨by omega, ?_⟩
      unfold encodeSextet
      rw [if_pos (by omega), show 65 + (c.toNat - 65) = c.toNat by omega, same]
  split at read
  · next lower =>
      cases read
      refine ⟨by omega, ?_⟩
      unfold encodeSextet
      rw [if_neg (by omega), if_pos (by omega), show 71 + (c.toNat - 71) = c.toNat by omega, same]
  split at read
  · next digit =>
      cases read
      refine ⟨by omega, ?_⟩
      unfold encodeSextet
      rw [if_neg (by omega), if_neg (by omega), if_pos (by omega), Nat.add_sub_cancel, same]
  split at read
  · next plus =>
      cases read
      exact ⟨by omega, plus.symm⟩
  split at read
  · next slash =>
      cases read
      exact ⟨by omega, slash.symm⟩
  · cases read

/-! ## Reading what was written -/

theorem toUInt8_of_eq {n : Nat} {byte : UInt8} (same : n = byte.toNat) : n.toUInt8 = byte := by
  rw [same]
  exact UInt8.ofNat_toNat

/-- A group that does not end in padding is read apart from the groups after it. -/
theorem decode_group {d : Char} (full : d ≠ '=') (a b c : Char) (rest : List Char) :
    decode (a :: b :: c :: d :: rest) =
      (decodeGroup a b c d).bind fun bytes => (decode rest).map (bytes ++ ·) := by
  cases rest with
  | nil =>
      have last : decode [a, b, c, d] = decodeGroup a b c d := if_neg full
      rw [last]
      cases decodeGroup a b c d with
      | none => rfl
      | some bytes => exact congrArg some (List.append_nil bytes).symm
  | cons e rest =>
      rw [decode]
      · cases decodeGroup a b c d <;> cases decode (e :: rest) <;> rfl
      · nofun

theorem decodeGroup_encode (a b c : UInt8) :
    decodeGroup (encodeSextet (a.toNat / 4)) (encodeSextet (a.toNat % 4 * 16 + b.toNat / 16))
      (encodeSextet (b.toNat % 16 * 4 + c.toNat / 64)) (encodeSextet (c.toNat % 64)) =
        some [a, b, c] := by
  have hA := a.toNat_lt
  have hB := b.toNat_lt
  have hC := c.toNat_lt
  unfold decodeGroup
  rw [decodeSextet_encodeSextet _ (by omega), decodeSextet_encodeSextet _ (by omega),
    decodeSextet_encodeSextet _ (by omega), decodeSextet_encodeSextet _ (by omega)]
  have first : (a.toNat / 4 * 4 + (a.toNat % 4 * 16 + b.toNat / 16) / 16).toUInt8 = a :=
    toUInt8_of_eq (by omega)
  have second : ((a.toNat % 4 * 16 + b.toNat / 16) % 16 * 16 +
      (b.toNat % 16 * 4 + c.toNat / 64) / 4).toUInt8 = b := toUInt8_of_eq (by omega)
  have third : ((b.toNat % 16 * 4 + c.toNat / 64) % 4 * 64 + c.toNat % 64).toUInt8 = c :=
    toUInt8_of_eq (by omega)
  exact congrArg some (by rw [first, second, third])

/-- What is read as a last group with one byte. -/
theorem decodeLast_one {a b : Char} {x y : Nat} (first : decodeSextet a = some x)
    (second : decodeSextet b = some y) :
    decodeLast a b '=' '=' = if y % 16 = 0 then some [(x * 4 + y / 16).toUInt8] else none := by
  unfold decodeLast
  rw [if_pos rfl, first, second]
  rfl

/-- What is read as a last group with two bytes. -/
theorem decodeLast_two {a b c : Char} {x y z : Nat} (some_ : c ≠ '=')
    (first : decodeSextet a = some x) (second : decodeSextet b = some y)
    (third : decodeSextet c = some z) :
    decodeLast a b c '=' = if z % 4 = 0 then
      some [(x * 4 + y / 16).toUInt8, (y % 16 * 16 + z / 4).toUInt8] else none := by
  unfold decodeLast
  rw [if_pos rfl, first, second, third]
  exact if_neg some_

theorem decode_encode (bytes : List UInt8) : decode (encode bytes) = some bytes := by
  induction bytes using encode.induct with
  | case1 => rfl
  | case2 a =>
      have hA := a.toNat_lt
      have first : (a.toNat / 4 * 4 + a.toNat % 4 * 16 / 16).toUInt8 = a := toUInt8_of_eq (by omega)
      show decodeLast _ _ '=' '=' = _
      rw [decodeLast_one (decodeSextet_encodeSextet _ (by omega))
        (decodeSextet_encodeSextet _ (by omega)), if_pos (by omega), first]
  | case3 a b =>
      have hA := a.toNat_lt
      have hB := b.toNat_lt
      have first : (a.toNat / 4 * 4 + (a.toNat % 4 * 16 + b.toNat / 16) / 16).toUInt8 = a :=
        toUInt8_of_eq (by omega)
      have second : ((a.toNat % 4 * 16 + b.toNat / 16) % 16 * 16 + b.toNat % 16 * 4 / 4).toUInt8 =
          b := toUInt8_of_eq (by omega)
      show decodeLast _ _ _ '=' = _
      rw [decodeLast_two (encodeSextet_ne_pad _ (by omega))
        (decodeSextet_encodeSextet _ (by omega)) (decodeSextet_encodeSextet _ (by omega))
        (decodeSextet_encodeSextet _ (by omega)), if_pos (by omega), first, second]
  | case4 a b c rest ih =>
      have hC := c.toNat_lt
      rw [encode, decode_group (encodeSextet_ne_pad _ (by omega)), decodeGroup_encode, ih]
      rfl

/-! ## Writing what was read -/

theorem encode_append_of_decodeGroup {a b c d : Char} {bytes : List UInt8}
    (read : decodeGroup a b c d = some bytes) (rest : List UInt8) :
    encode (bytes ++ rest) = a :: b :: c :: d :: encode rest := by
  unfold decodeGroup at read
  simp only [bind, Option.bind_eq_some_iff] at read
  obtain ⟨x, first, y, second, z, third, u, fourth, same⟩ := read
  cases same
  obtain ⟨hX, rfl⟩ := encodeSextet_of_decodeSextet first
  obtain ⟨hY, rfl⟩ := encodeSextet_of_decodeSextet second
  obtain ⟨hZ, rfl⟩ := encodeSextet_of_decodeSextet third
  obtain ⟨hU, rfl⟩ := encodeSextet_of_decodeSextet fourth
  rw [List.cons_append, List.cons_append, List.cons_append, List.nil_append, encode,
    Utf8.toNat_toUInt8 (by omega), Utf8.toNat_toUInt8 (by omega), Utf8.toNat_toUInt8 (by omega)]
  congr 5 <;> omega

theorem encode_of_decodeLast {a b c d : Char} {bytes : List UInt8}
    (read : decodeLast a b c d = some bytes) : encode bytes = [a, b, c, d] := by
  unfold decodeLast at read
  split at read
  · next padded =>
      simp only [bind, Option.bind_eq_some_iff] at read
      obtain ⟨x, first, y, second, read⟩ := read
      obtain ⟨hX, rfl⟩ := encodeSextet_of_decodeSextet first
      obtain ⟨hY, rfl⟩ := encodeSextet_of_decodeSextet second
      subst padded
      split at read
      · next padded =>
          subst padded
          split at read
          · next clear =>
              cases read
              rw [encode, Utf8.toNat_toUInt8 (by omega)]
              congr 3 <;> omega
          · cases read
      · obtain ⟨z, third, ended⟩ := Option.bind_eq_some_iff.mp read
        obtain ⟨hZ, rfl⟩ := encodeSextet_of_decodeSextet third
        split at ended
        · next clear =>
            cases ended
            rw [encode, Utf8.toNat_toUInt8 (by omega), Utf8.toNat_toUInt8 (by omega)]
            congr 4 <;> omega
        · cases ended
  · have group := encode_append_of_decodeGroup read []
    rw [List.append_nil] at group
    exact group

theorem encode_of_decode {text : List Char} {bytes : List UInt8}
    (read : decode text = some bytes) : encode bytes = text := by
  induction text using decode.induct generalizing bytes with
  | case1 =>
      cases read
      rfl
  | case2 a b c d => exact encode_of_decodeLast read
  | case3 a b c d rest more ih =>
      rw [decode] at read
      · simp only [bind, Option.bind_eq_some_iff] at read
        obtain ⟨group, first, others, second, same⟩ := read
        cases same
        rw [encode_append_of_decodeGroup first, ih second]
      · exact more
  | case4 text notEmpty notLast notGroup =>
      rw [decode] at read
      · cases read
      all_goals assumption

/-! ## The only text for some bytes -/

theorem bits_second (m : Nat) {n : Nat} (small : n < 16) :
    bitsOf 6 (m * 16 + n) = bitsOf 2 m ++ bitsOf 4 n :=
  bitsOf_add 2 4 m small

theorem bits_third (m : Nat) {n : Nat} (small : n < 4) :
    bitsOf 6 (m * 4 + n) = bitsOf 4 m ++ bitsOf 2 n :=
  bitsOf_add 4 2 m small

theorem bits_byte (n : Nat) :
    bitsOf 8 n = bitsOf 6 (n / 4) ++ bitsOf 2 (n % 4) ∧
      bitsOf 8 n = bitsOf 4 (n / 16) ++ bitsOf 4 (n % 16) ∧
      bitsOf 8 n = bitsOf 2 (n / 64) ++ bitsOf 6 (n % 64) :=
  ⟨bitsOf_div_mod 6 2 n, bitsOf_div_mod 4 4 n, bitsOf_div_mod 2 6 n⟩

/-- The four values of a group have the bits of its three bytes. -/
theorem bits_group (a b c : UInt8) :
    bitsOf 6 (a.toNat / 4) ++ (bitsOf 6 (a.toNat % 4 * 16 + b.toNat / 16) ++
        (bitsOf 6 (b.toNat % 16 * 4 + c.toNat / 64) ++ bitsOf 6 (c.toNat % 64))) =
      bitsOf 8 a.toNat ++ (bitsOf 8 b.toNat ++ bitsOf 8 c.toNat) := by
  have hB := b.toNat_lt
  have hC := c.toNat_lt
  rw [bits_second _ (by omega), bits_third _ (by omega), (bits_byte a.toNat).1,
    (bits_byte b.toNat).2.1, (bits_byte c.toNat).2.2]
  simp only [List.append_assoc]

theorem bits_one (a : UInt8) :
    bitsOf 6 (a.toNat / 4) ++ bitsOf 6 (a.toNat % 4 * 16) =
      bitsOf 8 a.toNat ++ List.replicate 4 false := by
  have second := bits_second (a.toNat % 4) (n := 0) (by decide)
  rw [Nat.add_zero, bitsOf_zero] at second
  rw [second, (bits_byte a.toNat).1, List.append_assoc]

theorem bits_two (a b : UInt8) :
    bitsOf 6 (a.toNat / 4) ++ (bitsOf 6 (a.toNat % 4 * 16 + b.toNat / 16) ++
        bitsOf 6 (b.toNat % 16 * 4)) =
      bitsOf 8 a.toNat ++ (bitsOf 8 b.toNat ++ List.replicate 2 false) := by
  have hB := b.toNat_lt
  have third := bits_third (b.toNat % 16) (n := 0) (by decide)
  rw [Nat.add_zero, bitsOf_zero] at third
  rw [bits_second _ (by omega), third, (bits_byte a.toNat).1, (bits_byte b.toNat).2.1]
  simp only [List.append_assoc]

theorem symbol_mk {n : Nat} (small : n < 64) : symbol ⟨n, small⟩ = encodeSextet n :=
  (encodeSextet_eq_symbol ⟨n, small⟩).symm

theorem writes_encode (bytes : List UInt8) : Writes bytes (encode bytes) := by
  induction bytes using encode.induct with
  | case1 => exact ⟨[], 0, 0, by decide, by decide, ⟨0, rfl⟩, rfl, rfl⟩
  | case2 a =>
      have hA := a.toNat_lt
      refine ⟨[⟨a.toNat / 4, by omega⟩, ⟨a.toNat % 4 * 16, by omega⟩], 4, 2, by decide, by decide,
        ⟨1, rfl⟩, ?_, ?_⟩
      · simp [encode, symbol_mk]
      · simpa using bits_one a
  | case3 a b =>
      have hA := a.toNat_lt
      have hB := b.toNat_lt
      refine ⟨[⟨a.toNat / 4, by omega⟩, ⟨a.toNat % 4 * 16 + b.toNat / 16, by omega⟩,
        ⟨b.toNat % 16 * 4, by omega⟩], 2, 1, by decide, by decide, ⟨1, rfl⟩, ?_, ?_⟩
      · simp [encode, symbol_mk]
      · simpa using bits_two a b
  | case4 a b c rest ih =>
      have hA := a.toNat_lt
      have hB := b.toNat_lt
      have hC := c.toNat_lt
      obtain ⟨values, zeros, pads, few, fewer, ⟨groups, whole⟩, text, bits⟩ := ih
      refine ⟨⟨a.toNat / 4, by omega⟩ :: ⟨a.toNat % 4 * 16 + b.toNat / 16, by omega⟩ ::
        ⟨b.toNat % 16 * 4 + c.toNat / 64, by omega⟩ :: ⟨c.toNat % 64, by omega⟩ :: values,
        zeros, pads, few, fewer, ⟨groups + 1, ?_⟩, ?_, ?_⟩
      · simp only [encode, List.length_cons, whole]
        omega
      · simp [encode, symbol_mk, text]
      · have group := congrArg (· ++ values.flatMap fun value => bitsOf 6 value.val)
          (bits_group a b c)
        simpa [bits] using group

theorem length_flatMap_bitsOf {α : Type} (width : Nat) (number : α → Nat) (values : List α) :
    (values.flatMap fun value => bitsOf width (number value)).length = width * values.length := by
  induction values with
  | nil => rfl
  | cons value values ih =>
      rw [List.flatMap_cons, List.length_append, length_bitsOf, ih, List.length_cons, Nat.mul_succ,
        Nat.add_comm]

theorem flatMap_bitsOf_inj {values others : List (Fin 64)}
    (same : (values.flatMap fun value => bitsOf 6 value.val) =
      others.flatMap fun value => bitsOf 6 value.val)
    (asMany : values.length = others.length) : values = others := by
  induction values generalizing others with
  | nil => exact (List.eq_nil_of_length_eq_zero asMany.symm).symm
  | cons value values ih =>
      obtain _ | ⟨other, others⟩ := others
      · cases asMany
      · rw [List.flatMap_cons, List.flatMap_cons] at same
        obtain ⟨first, rest⟩ := List.append_inj same (by rw [length_bitsOf, length_bitsOf])
        have value_eq := Fin.ext (bitsOf_inj value.isLt other.isLt first)
        rw [value_eq, ih rest (Nat.succ.inj asMany)]

/-- The bytes tell how many values, zeros and characters of padding there are. -/
theorem Writes.unique {bytes : List UInt8} {text other : List Char} (writes : Writes bytes text)
    (writes' : Writes bytes other) : text = other := by
  obtain ⟨values, zeros, pads, few, fewer, whole, rfl, bits⟩ := writes
  obtain ⟨values', zeros', pads', few', fewer', whole', rfl, bits'⟩ := writes'
  have count := congrArg List.length bits
  have count' := congrArg List.length bits'
  simp only [List.length_append, length_flatMap_bitsOf, List.length_replicate, List.length_map]
    at count count' whole whole'
  obtain rfl : zeros = zeros' := by omega
  obtain rfl : values = values' := flatMap_bitsOf_inj (bits.trans bits'.symm) (by omega)
  obtain rfl : pads = pads' := by omega
  rfl

theorem writes_iff {bytes : List UInt8} {text : List Char} :
    Writes bytes text ↔ encode bytes = text :=
  ⟨(writes_encode bytes).unique, fun same => same ▸ writes_encode bytes⟩

/-- A text is read as some bytes exactly if it is these bytes in base64. -/
theorem decode_eq_some_iff {text : List Char} {bytes : List UInt8} :
    decode text = some bytes ↔ Writes bytes text := by
  rw [writes_iff]
  exact ⟨encode_of_decode, fun same => same ▸ decode_encode bytes⟩

/-- A text spells no other bytes. -/
theorem Writes.bytes_unique {text : List Char} {bytes other : List UInt8}
    (writes : Writes bytes text) (writes' : Writes other text) : bytes = other :=
  Option.some.inj
    ((decode_eq_some_iff.mpr writes).symm.trans (decode_eq_some_iff.mpr writes'))

theorem decode_eq_none_iff {text : List Char} : decode text = none ↔ ¬Canonical text := by
  rw [Option.eq_none_iff_forall_ne_some]
  exact ⟨fun none ⟨bytes, writes⟩ => none bytes (decode_eq_some_iff.mpr writes),
    fun none bytes read => none ⟨bytes, decode_eq_some_iff.mp read⟩⟩

end Base64

end ClusterHarness
