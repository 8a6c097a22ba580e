import ClusterHarness.Json.Parser
import ClusterHarness.Json.Printer
import Mathlib.Data.List.Basic

/-!
# Compact text is read as the value that it spells

A text without doubles in it is read as the value that it was made of.  The reader is followed from
character to character of a string, from digit to digit of a number, and from item to item: what it
leaves is what came after the value.
-/

namespace ClusterHarness

namespace Json

/-! ## Strings -/

theorem hexDigitValue?_hexDigit (n : Nat) : hexDigitValue? (hexDigit n) = some (n % 16) := by
  have each : ∀ m < 16, hexDigitValue? (Nat.digitChar m) = some m := by decide
  exact each (n % 16) (Nat.mod_lt n (by decide))

/-- A control character is spelt by its code. -/
theorem unescape?_control {c : Char} (control : c.toNat < 32) (rest : List Char) :
    unescape? ('u' :: '0' :: '0' :: hexDigit (c.toNat / 16) :: hexDigit c.toNat :: rest) =
      some (c, rest) := by
  have zero : hexDigitValue? '0' = some 0 := rfl
  have code : (0 * 16 + 0) * 256 + c.toNat / 16 % 16 * 16 + c.toNat % 16 = c.toNat := by omega
  have unit : hexQuad? ('0' :: '0' :: hexDigit (c.toNat / 16) :: hexDigit c.toNat :: rest) =
      some (c.toNat, rest) := by
    simp only [hexQuad?, zero, hexDigitValue?_hexDigit, Option.bind_eq_bind, Option.bind_some,
      code]
    rfl
  have low : ¬(0xD800 ≤ c.toNat ∧ c.toNat < 0xDC00) := by omega
  have high : ¬(0xDC00 ≤ c.toNat ∧ c.toNat < 0xE000) := by omega
  show (hexQuad? _).bind _ = _
  rw [unit]
  show (if _ then _ else if _ then _ else _) = _
  rw [if_neg low, if_neg high, Char.ofNat_toNat]

theorem stringFrom?_escaped (taken : List Char) (fuel : Nat) (c : Char) (rest : List Char) :
    stringFrom? taken (fuel + 1) (escaped c ++ rest) = stringFrom? (c :: taken) fuel rest := by
  unfold escaped
  split
  · next same => subst same; rfl
  split
  · next same => subst same; rfl
  split
  · next same => subst same; rfl
  split
  · next same => subst same; rfl
  split
  · next same => subst same; rfl
  split
  · next same => subst same; rfl
  split
  · next same => subst same; rfl
  split
  · next control =>
    show (unescape? ('u' :: '0' :: '0' :: _ :: _ :: rest)).bind _ = _
    rw [unescape?_control control]
    rfl
  · next quote backslash _ _ _ _ _ visible =>
    show (if c = '"' then _ else if c = '\\' then _ else if c.toNat < 32 then none else _) = _
    rw [if_neg quote, if_neg backslash, if_neg visible]
    rfl

theorem stringFrom?_flatMap_escaped (chars taken rest : List Char) {fuel : Nat}
    (enough : (chars.flatMap escaped).length < fuel) :
    stringFrom? taken fuel (chars.flatMap escaped ++ '"' :: rest) =
      some (String.ofList (taken.reverse ++ chars), rest) := by
  induction chars generalizing taken fuel with
  | nil =>
      obtain ⟨fuel, rfl⟩ := Nat.exists_eq_add_of_lt enough
      simp [stringFrom?]
  | cons c chars ih =>
      have some : 0 < (escaped c).length := by
        unfold escaped
        repeat' split
        all_goals exact Nat.zero_lt_succ _
      rw [List.flatMap_cons, List.length_append] at enough
      obtain ⟨fuel, rfl⟩ := Nat.exists_eq_add_of_le' (Nat.lt_of_le_of_lt (Nat.zero_le _) enough)
      rw [List.flatMap_cons, List.append_assoc, stringFrom?_escaped, ih (c :: taken) (by omega)]
      simp

theorem toList_quoted (text : String) :
    (quoted text).toList = '"' :: (text.toList.flatMap escaped ++ ['"']) := by
  unfold quoted
  split
  · exact String.toList_ofList
  · next harmless =>
    have each : ∀ c ∈ text.toList, escaped c = [c] := by
      have none : text.toList.any (fun c => c = '"' || c = '\\' || c.toNat < 32) = false := by
        rw [← String.contains_bool_eq]
        exact Bool.eq_false_iff.mpr harmless
      intro c member
      have visible := List.any_eq_false.mp none c member
      simp only [Bool.or_eq_true, decide_eq_true_eq, not_or] at visible
      obtain ⟨⟨quote, backslash⟩, printable⟩ := visible
      have other : ∀ d : Char, d.toNat < 32 → c ≠ d := fun d control same =>
        printable (same ▸ control)
      rw [escaped, if_neg quote, if_neg backslash, if_neg (other _ (by decide)),
        if_neg (other _ (by decide)), if_neg (other _ (by decide)), if_neg (other _ (by decide)),
        if_neg (other _ (by decide)), if_neg printable]
    have same : text.toList.flatMap escaped = text.toList := by
      rw [List.flatMap_congr each, List.flatMap_singleton']
    rw [String.toList_append, String.toList_append, same]
    rfl

theorem toList_quoted_append (text : String) (rest : List Char) :
    (quoted text).toList ++ rest = '"' :: (text.toList.flatMap escaped ++ '"' :: rest) := by
  rw [toList_quoted, List.cons_append, List.append_assoc]
  rfl

/-- A quoted text is read as that text. -/
theorem stringFrom?_quoted (text : String) (rest : List Char) :
    stringFrom? [] ((text.toList.flatMap escaped ++ '"' :: rest).length + 1)
      (text.toList.flatMap escaped ++ '"' :: rest) = some (text, rest) := by
  rw [stringFrom?_flatMap_escaped _ _ _ (by rw [List.length_append]; omega)]
  simp

/-! ## Numbers -/

/-- What can follow a value: nothing, or what separates or ends the values around it. -/
def Stops (rest : List Char) : Prop := ∀ c ∈ rest.head?, c = ',' ∨ c = ']' ∨ c = '\x7d'

theorem Stops.span {digits rest : List Char} (stops : Stops rest)
    (all : ∀ c ∈ digits, c.isDigit = true) :
    (digits ++ rest).takeWhile Char.isDigit = digits ∧
      (digits ++ rest).dropWhile Char.isDigit = rest := by
  have none : rest.takeWhile Char.isDigit = [] ∧ rest.dropWhile Char.isDigit = rest := by
    cases rest with
    | nil => exact ⟨rfl, rfl⟩
    | cons c more =>
        have other : c.isDigit = false := by
          rcases stops c rfl with rfl | rfl | rfl <;> rfl
        exact ⟨List.takeWhile_cons_of_neg (by simp [other]),
          List.dropWhile_cons_of_neg (by simp [other])⟩
  rw [List.takeWhile_append_of_pos all, List.dropWhile_append_of_pos all, none.1, none.2,
    List.append_nil]
  exact ⟨rfl, rfl⟩

theorem head?_toDigits {n : Nat} (some : 0 < n) : (Nat.toDigits 10 n).head? ≠ .some '0' := by
  induction n using Nat.strongRecOn with
  | ind n ih =>
      by_cases small : n < 10
      · have each : ∀ m < 10, 0 < m → [Nat.digitChar m].head? ≠ .some '0' := by decide
        rw [Nat.toDigits_of_lt_base small]
        exact each n small some
      · rw [Nat.toDigits_of_base_le (by decide) (Nat.not_lt.mp small), List.head?_append,
          Option.or_of_isSome]
        · exact ih (n / 10) (by omega) (by omega)
        · exact List.isSome_head?.mpr Nat.toDigits_ne_nil

theorem foldl_push (digits : List Char) (value : Nat)
    (fits : Nat.ofDigitChars 10 digits value < Nat.pow 2 64) :
    digits.foldl Significand.push ⟨value, false, 0⟩ =
      ⟨Nat.ofDigitChars 10 digits value, false, 0⟩ := by
  induction digits generalizing value with
  | nil => rfl
  | cons c digits ih =>
      rw [Nat.ofDigitChars_cons] at fits ⊢
      have next : value * 10 + digitValue c = 10 * value + (c.toNat - '0'.toNat) := by
        rw [Nat.mul_comm, digitValue]
      have kept : 10 * value + (c.toNat - '0'.toNat) < Nat.pow 2 64 := by
        refine Nat.lt_of_le_of_lt ?_ fits
        rw [Nat.ofDigitChars_eq_ofDigitChars_zero]
        exact Nat.le_trans (Nat.le_mul_of_pos_left _ (Nat.pow_pos (by decide)))
          (Nat.le_add_right _ _)
      have pushed : Significand.push ⟨value, false, 0⟩ c =
          ⟨10 * value + (c.toNat - '0'.toNat), false, 0⟩ := by
        simp only [Significand.push, next, if_pos kept]
        rfl
      rw [List.foldl_cons, pushed, ih _ fits]

theorem isDigit_of_mem_toDigits {n : Nat} {c : Char} (member : c ∈ Nat.toDigits 10 n) :
    c.isDigit = true :=
  Nat.isDigit_of_mem_toDigits (by decide) (by decide) member

/-- Only the number zero begins with a zero. -/
theorem not_padded_toDigits (n : Nat) :
    ¬((Nat.toDigits 10 n).isEmpty = true ∨
      1 < (Nat.toDigits 10 n).length ∧ (Nat.toDigits 10 n).head? = some '0') := by
  rintro (empty | ⟨long, zero⟩)
  · exact Nat.toDigits_ne_nil (List.isEmpty_iff.mp empty)
  · cases n with
    | zero => exact absurd long (by decide)
    | succ n => exact head?_toDigits (Nat.zero_lt_succ n) zero

theorem foldl_push_toDigits {n : Nat} (fits : n < Nat.pow 2 64) :
    (Nat.toDigits 10 n).foldl Significand.push {} = ⟨n, false, 0⟩ := by
  have read := foldl_push (Nat.toDigits 10 n) 0
  rw [Nat.ofDigitChars_ten_toDigits] at read
  exact read fits

theorem numberFrom?_natural {n : Nat} (fits : n < Nat.pow 2 64) {rest : List Char}
    (stops : Stops rest) : numberFrom? (Nat.toDigits 10 n ++ rest) = some (.int n, rest) := by
  obtain ⟨digits, left⟩ := stops.span fun _ => isDigit_of_mem_toDigits
  unfold numberFrom?
  split
  next negative chars signed =>
  split at signed
  · next more same =>
    cases written : Nat.toDigits 10 n with
    | nil => exact absurd written Nat.toDigits_ne_nil
    | cons c others =>
        rw [written] at same
        cases same
        cases isDigit_of_mem_toDigits (written ▸ List.mem_cons_self)
  · cases signed
    dsimp only
    rw [digits, left, if_neg (not_padded_toDigits n), foldl_push_toDigits fits]
    cases rest with
    | nil => rfl
    | cons c more => rcases stops c rfl with rfl | rfl | rfl <;> rfl

theorem numberFrom?_negative {n : Nat} (some : 0 < n) (fits : n ≤ Nat.pow 2 63)
    {rest : List Char} (stops : Stops rest) :
    numberFrom? ('-' :: (Nat.toDigits 10 n ++ rest)) = .some (.int (-n), rest) := by
  obtain ⟨digits, left⟩ := stops.span fun _ => isDigit_of_mem_toDigits
  have within : n < Nat.pow 2 64 := Nat.lt_of_le_of_lt fits (by decide)
  unfold numberFrom?
  split
  next negative chars signed =>
  have signed : (true, Nat.toDigits 10 n ++ rest) = (negative, chars) := signed
  cases signed
  dsimp only
  rw [digits, left, if_neg (not_padded_toDigits n), foldl_push_toDigits within]
  cases rest with
  | nil => simp [some, fits]
  | cons c more => rcases stops c rfl with rfl | rfl | rfl <;> simp [some, fits]

/-! ## Values -/

/-- Characters that a number begins with. -/
def IsNumeral (c : Char) : Prop := c = '-' ∨ c.isDigit = true

theorem skipBlanks_numeral {c : Char} (numeral : IsNumeral c) (rest : List Char) :
    skipBlanks (c :: rest) = c :: rest := by
  have visible : ¬(c = ' ' ∨ c = '\n' ∨ c = '\t' ∨ c = '\r') := by
    rintro (rfl | rfl | rfl | rfl) <;> rcases numeral with dash | digit <;> contradiction
  rw [skipBlanks, if_neg visible]

theorem valueFrom?_numeral {c : Char} (numeral : IsNumeral c) (depth fuel : Nat)
    (rest : List Char) : valueFrom? depth (fuel + 1) (c :: rest) = numberFrom? (c :: rest) := by
  rw [valueFrom?, skipBlanks_numeral numeral]
  split
  all_goals first
    | rfl
    | next same =>
      cases same
      rcases numeral with dash | digit <;> contradiction

/-- Integers of 64 bits, no doubles, and nested no deeper than so many levels. -/
inductive Exact : Nat → Json → Prop where
  | null {depth : Nat} : Exact depth .null
  | bool {depth : Nat} {value : Bool} : Exact depth (.bool value)
  | int {depth : Nat} {n : Int} (least : -(Nat.pow 2 63) ≤ n) (greatest : n < Nat.pow 2 64) :
      Exact depth (.int n)
  | str {depth : Nat} {text : String} : Exact depth (.str text)
  | arr {depth : Nat} {items : List Json} (each : ∀ item ∈ items, Exact depth item) :
      Exact (depth + 1) (.arr items)
  | obj {depth : Nat} {members : List (String × Json)} (each : ∀ m ∈ members, Exact depth m.2) :
      Exact (depth + 1) (.obj members)

@[simp] theorem exact_str (depth : Nat) (text : String) : Exact depth (.str text) := .str

@[simp] theorem exact_arr_iff {depth : Nat} {items : List Json} :
    Exact (depth + 1) (.arr items) ↔ ∀ item ∈ items, Exact depth item :=
  ⟨fun | .arr each => each, .arr⟩

@[simp] theorem exact_obj_iff {depth : Nat} {members : List (String × Json)} :
    Exact (depth + 1) (.obj members) ↔ ∀ m ∈ members, Exact depth m.2 :=
  ⟨fun | .obj each => each, .obj⟩

mutual

def isExact : Nat → Json → Bool
  | _, .null => true
  | _, .bool _ => true
  | _, .int n => -(Nat.pow 2 63 : Int) ≤ n && n < (Nat.pow 2 64 : Int)
  | _, .float _ => false
  | _, .str _ => true
  | 0, .arr _ => false
  | depth + 1, .arr items => itemsAreExact depth items
  | 0, .obj _ => false
  | depth + 1, .obj members => membersAreExact depth members

def itemsAreExact (depth : Nat) : List Json → Bool
  | [] => true
  | item :: rest => isExact depth item && itemsAreExact depth rest

def membersAreExact (depth : Nat) : List (String × Json) → Bool
  | [] => true
  | (_, value) :: rest => isExact depth value && membersAreExact depth rest

end

mutual

theorem exact_of_isExact : ∀ {depth : Nat} {value : Json}, isExact depth value = true →
    Exact depth value
  | _, .null, _ => .null
  | _, .bool _, _ => .bool
  | _, .int _, bounds => by
      rw [isExact, Bool.and_eq_true, decide_eq_true_eq, decide_eq_true_eq] at bounds
      exact .int bounds.1 bounds.2
  | _, .str _, _ => .str
  | _ + 1, .arr _, each => by
      rw [isExact] at each
      exact .arr (exact_of_itemsAreExact each)
  | _ + 1, .obj _, each => by
      rw [isExact] at each
      exact .obj (exact_of_membersAreExact each)

theorem exact_of_itemsAreExact : ∀ {depth : Nat} {items : List Json},
    itemsAreExact depth items = true → ∀ item ∈ items, Exact depth item
  | _, [], _ => nofun
  | _, _ :: _, each => by
      obtain ⟨first, others⟩ := Bool.and_eq_true_iff.mp each
      exact List.forall_mem_cons.mpr ⟨exact_of_isExact first, exact_of_itemsAreExact others⟩

theorem exact_of_membersAreExact : ∀ {depth : Nat} {members : List (String × Json)},
    membersAreExact depth members = true → ∀ m ∈ members, Exact depth m.2
  | _, [], _ => nofun
  | _, _ :: _, each => by
      obtain ⟨first, others⟩ := Bool.and_eq_true_iff.mp each
      exact List.forall_mem_cons.mpr ⟨exact_of_isExact first, exact_of_membersAreExact others⟩

end

/-- The value's text is read as the value, with what follows it left. -/
def Reads (depth : Nat) (value : Json) : Prop :=
  ∀ fuel rest, Stops rest → (compact value).toList.length < fuel →
    valueFrom? depth fuel ((compact value).toList ++ rest) = some (value, rest)

theorem compact_int (n : Int) :
    (compact (.int n)).toList =
      if n < 0 then '-' :: Nat.toDigits 10 n.natAbs else Nat.toDigits 10 n.natAbs := by
  rw [compact]
  split
  · rw [String.toList_append, Nat.toList_repr]
    rfl
  · rw [Nat.toList_repr]

theorem exists_numeral (n : Int) :
    ∃ c more, (compact (.int n)).toList = c :: more ∧ IsNumeral c := by
  rw [compact_int]
  split
  · exact ⟨_, _, rfl, Or.inl rfl⟩
  · cases written : Nat.toDigits 10 n.natAbs with
    | nil => exact absurd written Nat.toDigits_ne_nil
    | cons c more =>
        exact ⟨c, more, rfl, Or.inr (isDigit_of_mem_toDigits (written ▸ List.mem_cons_self))⟩

theorem reads_int (depth : Nat) {n : Int} (least : -(Nat.pow 2 63) ≤ n)
    (greatest : n < Nat.pow 2 64) : Reads depth (.int n) := by
  intro fuel rest stops enough
  obtain ⟨fuel, rfl⟩ := Nat.exists_eq_add_of_le' (Nat.lt_of_le_of_lt (Nat.zero_le _) enough)
  obtain ⟨c, more, written, numeral⟩ := exists_numeral n
  rw [written, List.cons_append, valueFrom?_numeral numeral, ← List.cons_append, ← written,
    compact_int]
  split
  · next negative =>
    have some : 0 < n.natAbs := by omega
    have fits : n.natAbs ≤ Nat.pow 2 63 := by omega
    rw [List.cons_append, numberFrom?_negative some fits stops,
      show -(n.natAbs : Int) = n by omega]
  · next natural =>
    have fits : n.natAbs < Nat.pow 2 64 := by omega
    rw [numberFrom?_natural fits stops, show (n.natAbs : Int) = n by omega]

theorem reads_str (depth : Nat) (text : String) : Reads depth (.str text) := by
  intro fuel rest stops enough
  obtain ⟨fuel, rfl⟩ := Nat.exists_eq_add_of_le' (Nat.lt_of_le_of_lt (Nat.zero_le _) enough)
  rw [compact, toList_quoted_append, valueFrom?]
  show (stringFrom? [] (_ + 1) (_ ++ '"' :: rest)).map _ = _
  rw [stringFrom?_quoted]
  rfl

/-! ## Arrays and objects -/

section

variable {depth fuel : Nat} {value : Json} (reads : Reads depth value)
  (enough : (compact value).toList.length < fuel) (rest : List Char)

include reads enough

theorem itemsFrom?_more (before : List Json) :
    itemsFrom? depth before (fuel + 1) ((compact value).toList ++ ',' :: rest) =
      itemsFrom? depth (value :: before) fuel rest := by
  rw [itemsFrom?, reads fuel _ (by simp [Stops]) enough]
  rfl

theorem itemsFrom?_last (before : List Json) :
    itemsFrom? depth before (fuel + 1) ((compact value).toList ++ ']' :: rest) =
      some (.arr (value :: before).reverse, rest) := by
  rw [itemsFrom?, reads fuel _ (by simp [Stops]) enough]
  rfl

theorem membersFrom?_more (name : String) (before : List (String × Json)) :
    membersFrom? depth before (fuel + 1)
        ((quoted name).toList ++ ':' :: ((compact value).toList ++ ',' :: rest)) =
      membersFrom? depth ((name, value) :: before) fuel rest := by
  rw [toList_quoted_append, membersFrom?]
  show (stringFrom? [] (_ + 1) (_ ++ '"' :: ':' :: _)).bind _ = _
  rw [stringFrom?_quoted]
  show (valueFrom? depth fuel _).bind _ = _
  rw [reads fuel _ (by simp [Stops]) enough]
  rfl

theorem membersFrom?_last (name : String) (before : List (String × Json)) :
    membersFrom? depth before (fuel + 1)
        ((quoted name).toList ++ ':' :: ((compact value).toList ++ '\x7d' :: rest)) =
      some (.obj ((name, value) :: before).reverse, rest) := by
  rw [toList_quoted_append, membersFrom?]
  show (stringFrom? [] (_ + 1) (_ ++ '"' :: ':' :: _)).bind _ = _
  rw [stringFrom?_quoted]
  show (valueFrom? depth fuel _).bind _ = _
  rw [reads fuel _ (by simp [Stops]) enough]
  rfl

end

/-- A value begins neither with a blank nor with the end of an array. -/
theorem exists_compact_eq_cons {depth : Nat} {value : Json} (exact : Exact depth value) :
    ∃ c more, (compact value).toList = c :: more ∧ c ≠ ']' ∧
      ∀ rest, skipBlanks (c :: rest) = c :: rest := by
  cases exact with
  | null => exact ⟨_, _, rfl, by decide, fun _ => rfl⟩
  | @bool _ value => cases value <;> exact ⟨_, _, rfl, by decide, fun _ => rfl⟩
  | @int _ n =>
      obtain ⟨c, more, written, numeral⟩ := exists_numeral n
      have other : c ≠ ']' := by
        rintro rfl
        rcases numeral with dash | digit <;> contradiction
      exact ⟨c, more, written, other, skipBlanks_numeral numeral⟩
  | @str _ text =>
      rw [compact, toList_quoted]
      exact ⟨_, _, rfl, by decide, fun _ => rfl⟩
  | @arr _ items =>
      rw [compact, String.toList_append, String.toList_append]
      exact ⟨'[', _, rfl, by decide, fun _ => rfl⟩
  | @obj _ members =>
      rw [compact, String.toList_append, String.toList_append]
      exact ⟨'\x7b', _, rfl, by decide, fun _ => rfl⟩

theorem itemsFrom?_compactItems {depth : Nat} {items : List Json} (some : items ≠ [])
    (reads : ∀ item ∈ items, Reads depth item) (before : List Json) {fuel : Nat}
    (enough : (compactItems items).toList.length + 1 < fuel) (rest : List Char) :
    itemsFrom? depth before fuel ((compactItems items).toList ++ ']' :: rest) =
      .some (.arr (before.reverse ++ items), rest) := by
  induction items generalizing before fuel with
  | nil => exact absurd rfl some
  | cons item others ih =>
      obtain ⟨fuel, rfl⟩ := Nat.exists_eq_add_of_le' (Nat.lt_of_le_of_lt (Nat.zero_le _) enough)
      have first := reads item List.mem_cons_self
      cases others with
      | nil =>
          rw [compactItems] at enough ⊢
          rw [itemsFrom?_last first (by omega), List.reverse_cons]
      | cons next others =>
          have long : (compactItems (item :: next :: others)).toList =
              (compact item).toList ++ ',' :: (compactItems (next :: others)).toList := by
            rw [compactItems, String.toList_append, String.toList_append, List.append_assoc]
            · rfl
            · exact List.cons_ne_nil _ _
          rw [long, List.length_append, List.length_cons] at enough
          rw [long, List.append_assoc, List.cons_append, itemsFrom?_more first (by omega),
            ih (List.cons_ne_nil _ _) (fun j member => reads j (List.mem_cons_of_mem _ member))
              _ (by omega)]
          simp

theorem membersFrom?_compactMembers {depth : Nat} {members : List (String × Json)}
    (some : members ≠ []) (reads : ∀ m ∈ members, Reads depth m.2)
    (before : List (String × Json)) {fuel : Nat}
    (enough : (compactMembers members).toList.length + 1 < fuel) (rest : List Char) :
    membersFrom? depth before fuel ((compactMembers members).toList ++ '\x7d' :: rest) =
      .some (.obj (before.reverse ++ members), rest) := by
  induction members generalizing before fuel with
  | nil => exact absurd rfl some
  | cons m others ih =>
      obtain ⟨fuel, rfl⟩ := Nat.exists_eq_add_of_le' (Nat.lt_of_le_of_lt (Nat.zero_le _) enough)
      have first := reads m List.mem_cons_self
      cases others with
      | nil =>
          have only : (compactMembers [m]).toList =
              (quoted m.1).toList ++ ':' :: (compact m.2).toList := by
            rw [compactMembers, String.toList_append, String.toList_append, List.append_assoc]
            rfl
          rw [only, List.length_append, List.length_cons] at enough
          rw [only, List.append_assoc, List.cons_append, membersFrom?_last first (by omega),
            List.reverse_cons]
      | cons next others =>
          have long : (compactMembers (m :: next :: others)).toList =
              (quoted m.1).toList ++ ':' :: ((compact m.2).toList ++
                ',' :: (compactMembers (next :: others)).toList) := by
            rw [compactMembers]
            · simp only [String.toList_append, List.append_assoc]
              rfl
            · exact List.cons_ne_nil _ _
          rw [long, List.length_append, List.length_cons, List.length_append,
            List.length_cons] at enough
          rw [long, List.append_assoc, List.cons_append, List.append_assoc, List.cons_append,
            membersFrom?_more first (by omega),
            ih (List.cons_ne_nil _ _) (fun j member => reads j (List.mem_cons_of_mem _ member))
              _ (by omega)]
          simp

theorem compactItems_eq_append (item : Json) (others : List Json) :
    ∃ more, (compactItems (item :: others)).toList = (compact item).toList ++ more := by
  cases others with
  | nil => exact ⟨[], (List.append_nil _).symm⟩
  | cons next others =>
      rw [compactItems]
      · rw [String.toList_append, String.toList_append, List.append_assoc]
        exact ⟨_, rfl⟩
      · exact List.cons_ne_nil _ _

theorem compactMembers_eq_append (m : String × Json) (others : List (String × Json)) :
    ∃ more, (compactMembers (m :: others)).toList = (quoted m.1).toList ++ more := by
  cases others with
  | nil =>
      rw [compactMembers]
      simp only [String.toList_append, List.append_assoc]
      exact ⟨_, rfl⟩
  | cons next others =>
      rw [compactMembers]
      · simp only [String.toList_append, List.append_assoc]
        exact ⟨_, rfl⟩
      · exact List.cons_ne_nil _ _

theorem valueFrom?_bracket (depth fuel : Nat) (text : List Char) :
    valueFrom? (depth + 1) (fuel + 1) ('[' :: text) =
      match skipBlanks text with
      | ']' :: rest => some (.arr [], rest)
      | rest => itemsFrom? depth [] fuel rest := by
  rw [valueFrom?]
  rfl

theorem reads_arr {depth : Nat} {items : List Json} (each : ∀ item ∈ items, Exact depth item)
    (reads : ∀ item ∈ items, Reads depth item) : Reads (depth + 1) (.arr items) := by
  intro fuel rest _ enough
  have text : (compact (.arr items)).toList = '[' :: ((compactItems items).toList ++ [']']) := by
    rw [compact, String.toList_append, String.toList_append]
    rfl
  obtain ⟨fuel, rfl⟩ := Nat.exists_eq_add_of_le' (Nat.lt_of_le_of_lt (Nat.zero_le _) enough)
  rw [text, List.length_cons, List.length_append] at enough
  rw [text, List.cons_append, List.append_assoc, List.singleton_append, valueFrom?_bracket]
  cases items with
  | nil => rfl
  | cons item others =>
      obtain ⟨more, begins⟩ := compactItems_eq_append item others
      obtain ⟨c, left, written, other, visible⟩ :=
        exists_compact_eq_cons (each item List.mem_cons_self)
      have same : skipBlanks ((compactItems (item :: others)).toList ++ ']' :: rest) =
          (compactItems (item :: others)).toList ++ ']' :: rest := by
        rw [begins, written]
        exact visible _
      rw [same]
      split
      · next ends =>
        rw [begins, written] at ends
        cases ends
        exact absurd rfl other
      · exact itemsFrom?_compactItems (List.cons_ne_nil _ _) reads [] (by simpa using enough) rest

theorem reads_obj {depth : Nat} {members : List (String × Json)}
    (reads : ∀ m ∈ members, Reads depth m.2) : Reads (depth + 1) (.obj members) := by
  intro fuel rest _ enough
  have text : (compact (.obj members)).toList =
      '\x7b' :: ((compactMembers members).toList ++ ['\x7d']) := by
    rw [compact, String.toList_append, String.toList_append]
    rfl
  obtain ⟨fuel, rfl⟩ := Nat.exists_eq_add_of_le' (Nat.lt_of_le_of_lt (Nat.zero_le _) enough)
  rw [text, List.length_cons, List.length_append] at enough
  rw [text, List.cons_append, List.append_assoc, valueFrom?]
  cases members with
  | nil => rfl
  | cons m others =>
      obtain ⟨more, begins⟩ := compactMembers_eq_append m others
      have read := membersFrom?_compactMembers (List.cons_ne_nil m others) reads []
        (by simpa using enough) rest
      rw [begins, toList_quoted, List.cons_append, List.cons_append] at read
      rw [begins, toList_quoted, List.cons_append, List.cons_append]
      exact read

/-- The text of a value is read as the value. -/
theorem reads_of_exact {depth : Nat} {value : Json} (exact : Exact depth value) :
    Reads depth value := by
  induction exact with
  | null =>
      intro fuel rest _ enough
      obtain ⟨fuel, rfl⟩ := Nat.exists_eq_add_of_le' (Nat.lt_of_le_of_lt (Nat.zero_le _) enough)
      rfl
  | @bool _ value =>
      intro fuel rest _ enough
      obtain ⟨fuel, rfl⟩ := Nat.exists_eq_add_of_le' (Nat.lt_of_le_of_lt (Nat.zero_le _) enough)
      cases value <;> rfl
  | int least greatest => exact reads_int _ least greatest
  | str => exact reads_str _ _
  | arr each reads => exact reads_arr each reads
  | obj _ reads => exact reads_obj reads

/-- A text made of a value spells that value. -/
theorem parse?_compact {value : Json} (exact : Exact 127 value) :
    parse? (compact value) = some value := by
  have read := reads_of_exact exact ((compact value).toList.length + 1) [] nofun
    (Nat.lt_succ_self _)
  rw [List.append_nil] at read
  unfold parse?
  dsimp only
  rw [read]
  rfl

end Json

end ClusterHarness
