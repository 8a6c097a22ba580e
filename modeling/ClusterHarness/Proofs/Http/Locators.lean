import ClusterHarness.Http.Exchange
import ClusterHarness.Proofs.Text.Pieces

/-!
# Locators below a known host

Whatever follows the slash behind the authority of a secure locator, the text is a locator, and its
scheme and host are the known ones.  A path of plain segments is read as it stands.
-/

namespace ClusterHarness

namespace Url

/-! ## Texts below a host -/

/-- The character does not end an authority and is no blank. -/
def InAuthority (c : Char) : Prop := 0x20 < c.toNat ∧ c ∉ "/\\?#".toList

instance (c : Char) : Decidable (InAuthority c) := inferInstanceAs (Decidable (_ ∧ _))

/-- A blank around a text, which does not count. -/
def outside (c : Char) : Bool := c.toNat ≤ 0x20

def cleanTail (tail : List Char) : List Char :=
  (Text.dropEndWhile outside tail).filter fun c => c ≠ '\t' ∧ c ≠ '\n' ∧ c ≠ '\r'

/-- The visible start of a text counts as it stands. -/
theorem cleanTail_append {front : List Char} (visible : ∀ c ∈ front, 0x20 < c.toNat)
    (tail : List Char) : cleanTail (front ++ tail) = front ++ cleanTail tail := by
  have kept : Text.dropEndWhile outside front = front :=
    Text.dropEndWhile_eq_self fun c member => decide_eq_false (Nat.not_le.mpr (visible c member))
  have unbroken : (front.filter fun c => c ≠ '\t' ∧ c ≠ '\n' ∧ c ≠ '\r') = front := by
    refine List.filter_eq_self.mpr fun c member => decide_eq_true ?_
    have seen := visible c member
    refine ⟨?_, ?_, ?_⟩ <;>
      · rintro rfl
        exact absurd seen (by decide)
  unfold cleanTail
  rw [Text.dropEndWhile_append _ kept, List.filter_append, unbroken]

def body (tail : List Char) : List Char := (cleanTail tail).takeWhile (· ≠ '#')

def below (host : List Char) (tail : List Char) : Url where
  scheme := "https".toList
  host := host
  port := none
  path := readSegments true ((body tail).takeWhile (· ≠ '?'))
  query := ((Text.cut '?' (body tail)).map (·.2)).map (escaped (queryEscapes true))

variable {authority host : List Char}

theorem clean_below (visible : ∀ c ∈ authority, InAuthority c) (tail : List Char) :
    clean ("https://".toList ++ (authority ++ '/' :: tail)) =
      "https://".toList ++ (authority ++ '/' :: cleanTail tail) := by
  have scheme : ∀ c ∈ "https://".toList, 0x20 < c.toNat := by simp
  have counts : ∀ c ∈ "https://".toList ++ (authority ++ ['/']), 0x20 < c.toNat := by
    intro c member
    rcases List.mem_append.mp member with inScheme | behind
    · exact scheme c inScheme
    · rcases List.mem_append.mp behind with inside | slash
      · exact (visible c inside).1
      · rw [List.mem_singleton.mp slash]
        decide
  have shape (rest : List Char) : "https://".toList ++ (authority ++ '/' :: rest) =
      ("https://".toList ++ (authority ++ ['/'])) ++ rest := by simp
  have front : (("https://".toList ++ (authority ++ '/' :: tail)).dropWhile outside) =
      "https://".toList ++ (authority ++ '/' :: tail) := rfl
  calc
    clean ("https://".toList ++ (authority ++ '/' :: tail))
        = cleanTail ("https://".toList ++ (authority ++ '/' :: tail)) := by
      unfold cleanTail
      rw [← front]
      rfl
    _ = "https://".toList ++ (authority ++ '/' :: cleanTail tail) := by
      rw [shape, cleanTail_append counts, ← shape]

/-- Neither slash, query nor fragment starts before the slash behind the authority. -/
theorem passes_authority (visible : ∀ c ∈ authority, InAuthority c) {stop : Char}
    (stops : stop = '#' ∨ stop = '?') : ∀ c ∈ '/' :: '/' :: (authority ++ ['/']), c ≠ stop := by
  intro c member same
  subst same
  simp only [List.mem_cons, List.mem_append, List.not_mem_nil, or_false] at member
  rcases member with slash | slash | inside | slash
  · revert slash
    rcases stops with rfl | rfl <;> decide
  · revert slash
    rcases stops with rfl | rfl <;> decide
  · apply (visible c inside).2
    rcases stops with rfl | rfl <;> decide
  · revert slash
    rcases stops with rfl | rfl <;> decide

theorem takeWhile_below (visible : ∀ c ∈ authority, InAuthority c) {stop : Char}
    (stops : stop = '#' ∨ stop = '?') (rest : List Char) :
    ('/' :: '/' :: (authority ++ '/' :: rest)).takeWhile (· ≠ stop) =
      '/' :: '/' :: (authority ++ '/' :: rest.takeWhile (· ≠ stop)) := by
  have passed := passes_authority visible stops
  have shape (rest : List Char) : '/' :: '/' :: (authority ++ '/' :: rest) =
      ('/' :: '/' :: (authority ++ ['/'])) ++ rest := by simp
  rw [shape, List.takeWhile_append_of_pos fun c member => decide_eq_true (passed c member), ← shape]

theorem cut_below (visible : ∀ c ∈ authority, InAuthority c) (rest : List Char) :
    (Text.cut '?' ('/' :: '/' :: (authority ++ '/' :: rest))).map (·.2) =
      (Text.cut '?' rest).map (·.2) := by
  have passed := passes_authority visible (Or.inr rfl)
  have shape : '/' :: '/' :: (authority ++ '/' :: rest) =
      ('/' :: '/' :: (authority ++ ['/'])) ++ rest := by simp
  unfold Text.cut
  rw [shape, List.dropWhile_append_of_pos fun c member => decide_eq_true (passed c member)]
  cases rest.dropWhile (· ≠ '?') <;> rfl

theorem readHierarchy_below (visible : ∀ c ∈ authority, InAuthority c) (given : authority ≠ [])
    (known : readAuthority true authority = .ok (host, none)) (path : List Char) :
    readHierarchy "https" ('/' :: '/' :: (authority ++ '/' :: path)) =
      .ok (host, none, readSegments true path) := by
  have noSlash : ∀ c ∈ authority, isSlash true c = false := by
    intro c inside
    have odd := (visible c inside).2
    simp only [isSlash, Bool.true_and, Bool.or_eq_false_iff, decide_eq_false_iff_not]
    constructor <;>
      · rintro rfl
        exact odd (by decide)
  have opens : ('/' :: '/' :: (authority ++ '/' :: path)).dropWhile (isSlash true) =
      authority ++ '/' :: path := by
    obtain ⟨c, rest, rfl⟩ := List.exists_cons_of_ne_nil given
    have first := noSlash c List.mem_cons_self
    have slash : isSlash true '/' = true := rfl
    rw [List.dropWhile_cons_of_pos slash, List.dropWhile_cons_of_pos slash, List.cons_append,
      List.dropWhile_cons_of_neg (by rw [first]; exact Bool.false_ne_true)]
  have passed : ∀ c ∈ authority, decide (¬isSlash true c = true) = true := by
    intro c inside
    rw [noSlash c inside]
    rfl
  have splits : splitAuthority true (authority ++ '/' :: path) = (authority, '/' :: path) := by
    unfold splitAuthority
    rw [List.takeWhile_append_of_pos passed, List.dropWhile_append_of_pos passed]
    exact congrArg (·, '/' :: path) (List.append_nil authority)
  unfold readHierarchy
  have special : isSpecial "https" = true := by decide
  have other : ¬"https" = "file" := by decide
  rw [special, if_neg other, if_pos rfl, opens, splits]
  dsimp only
  rw [known]
  rfl

/-- Below a known host every text is a locator. -/
theorem read_below (visible : ∀ c ∈ authority, InAuthority c) (given : authority ≠ [])
    (known : readAuthority true authority = .ok (host, none)) (tail : List Char) :
    read ("https://".toList ++ (authority ++ '/' :: tail)) = .ok (below host tail) := by
  have scheme : scheme? ("https://".toList ++ (authority ++ '/' :: cleanTail tail)) =
      some ("https".toList, '/' :: '/' :: (authority ++ '/' :: cleanTail tail)) := rfl
  have name : String.ofList "https".toList = "https" := rfl
  unfold read
  rw [clean_below visible, scheme]
  dsimp only
  rw [name, takeWhile_below visible (Or.inl rfl), takeWhile_below visible (Or.inr rfl),
    cut_below visible, readHierarchy_below visible given known]
  rfl

/-! ## Plain segments -/

/-- A letter, a digit, or one of the marks that stand in names. -/
def isPlain (c : Char) : Bool := c.isAlphanum || c = '-' || c = '_' || c = '.'

/-- A name that a path holds as it stands: plain, and not a dot segment. -/
def PlainSegment (segment : List Char) : Prop :=
  (∀ c ∈ segment, isPlain c = true) ∧ segment ≠ ['.'] ∧ segment ≠ ['.', '.']

theorem toNat_lt_of_isPlain {c : Char} (plain : isPlain c = true) : c.toNat < 127 := by
  have ofUpper (upper : c.isUpper = true) : c.toNat < 127 :=
    Nat.lt_of_le_of_lt (UInt32.le_iff_toNat_le.mp (of_decide_eq_true upper).2) (by decide)
  have ofLower (lower : c.isLower = true) : c.toNat < 127 := by
    have bounds : (decide ('a'.val ≤ c.val) && decide (c.val ≤ 'z'.val)) = true := lower
    have last := of_decide_eq_true (Bool.and_eq_true_iff.mp bounds).2
    exact Nat.lt_of_le_of_lt (UInt32.le_iff_toNat_le.mp last) (by decide)
  simp only [isPlain, Bool.or_eq_true, decide_eq_true_eq] at plain
  rcases plain with ((named | rfl) | rfl) | rfl
  · have listed : ((c.isUpper || c.isLower) || c.isDigit) = true := named
    rcases Bool.or_eq_true_iff.mp listed with letter | digit
    · exact (Bool.or_eq_true_iff.mp letter).elim ofUpper ofLower
    · exact Nat.lt_of_le_of_lt (Char.isDigit_iff_toNat.mp digit).2 (by decide)
  · decide
  · decide
  · decide

/-- Plain characters do not end a path, and they are neither blanks nor encoded. -/
structure InPath (c : Char) : Prop where
  visible : 0x20 < c.toNat
  inside : c ∉ "/\\?#".toList
  kept : (isHidden c || pathEscapes c) = false
  dot : c.toLower = '.' → c = '.'
  percent : c.toLower ≠ '%'

theorem inPath_of_isPlain {c : Char} (plain : isPlain c = true) : InPath c := by
  have table : ∀ n < 127, isPlain (Char.ofNat n) = true →
      0x20 < (Char.ofNat n).toNat ∧ Char.ofNat n ∉ "/\\?#".toList ∧
        (isHidden (Char.ofNat n) || pathEscapes (Char.ofNat n)) = false ∧
        ((Char.ofNat n).toLower = '.' → Char.ofNat n = '.') ∧
        (Char.ofNat n).toLower ≠ '%' := by decide +kernel
  have listed := table c.toNat (toNat_lt_of_isPlain plain)
  rw [Char.ofNat_toNat] at listed
  obtain ⟨visible, inside, kept, dot, percent⟩ := listed plain
  exact ⟨visible, inside, kept, dot, percent⟩

namespace PlainSegment

variable {segment : List Char} (plain : PlainSegment segment)
include plain

theorem percent_not_mem : '%' ∉ segment.map Char.toLower := by
  intro member
  obtain ⟨c, inside, lower⟩ := List.mem_map.mp member
  exact (inPath_of_isPlain (plain.1 c inside)).percent lower

/-- Dots are dots in lower case only. -/
theorem eq_of_lower {count : Nat} (lower : segment.map Char.toLower = List.replicate count '.') :
    segment = List.replicate count '.' := by
  have dots : ∀ c ∈ segment, c = '.' := by
    intro c inside
    have dot : c.toLower ∈ List.replicate count '.' := lower ▸ List.mem_map_of_mem inside
    exact (inPath_of_isPlain (plain.1 c inside)).dot (List.eq_of_mem_replicate dot)
  have long : segment.length = count := by
    rw [← List.length_map (f := Char.toLower), lower, List.length_replicate]
  exact List.eq_replicate_iff.mpr ⟨long, dots⟩

theorem isDot_eq_false : isDot segment = false := by
  have noPercent := plain.percent_not_mem
  unfold isDot
  rw [decide_eq_false plain.2.1, Bool.false_or]
  refine decide_eq_false fun same => noPercent ?_
  rw [same]
  decide

theorem isDoubleDot_eq_false : isDoubleDot segment = false := by
  have noPercent := plain.percent_not_mem
  have noDots : segment.map Char.toLower ≠ "..".toList := by
    intro same
    have twice : segment.map Char.toLower = List.replicate 2 '.' := same
    exact plain.2.2 (plain.eq_of_lower twice)
  unfold isDoubleDot
  rw [List.any_eq_false]
  intro dots listed same
  have lower := of_decide_eq_true same
  simp only [List.mem_cons, List.not_mem_nil, or_false] at listed
  rcases listed with rfl | rfl | rfl | rfl
  · exact noDots lower
  all_goals
    rw [lower] at noPercent
    exact noPercent (by decide)

theorem escaped_eq : escaped pathEscapes segment = segment := by
  have kept : ∀ c ∈ segment, (if isHidden c || pathEscapes c then
      (Utf8.encodeChar c).flatMap Target.percent else [c]) = [c] := by
    intro c inside
    rw [(inPath_of_isPlain (plain.1 c inside)).kept]
    rfl
  unfold escaped
  rw [List.flatMap_def, List.map_congr_left kept, ← List.flatMap_def, List.flatMap_singleton']

end PlainSegment

/-- Nothing is resolved in a path without dot segments. -/
theorem resolve_of_plain {segments : List (List Char)} (plain : ∀ s ∈ segments, PlainSegment s)
    (before : List (List Char)) : resolve before segments = before.reverse ++ segments := by
  induction segments generalizing before with
  | nil => exact (List.append_nil _).symm
  | cons segment rest ih =>
      have first := plain segment List.mem_cons_self
      have dot := first.isDot_eq_false
      have dots := first.isDoubleDot_eq_false
      cases rest with
      | nil => simp [resolve, dot, dots]
      | cons next rest =>
          have others := ih (fun s member => plain s (List.mem_cons_of_mem _ member))
            (segment :: before)
          simpa [resolve, dot, dots] using others

theorem mem_join {separator c : Char} {pieces : List (List Char)}
    (member : c ∈ Text.join separator pieces) : c = separator ∨ ∃ piece ∈ pieces, c ∈ piece := by
  induction pieces with
  | nil => cases member
  | cons piece rest ih =>
      cases rest with
      | nil => exact Or.inr ⟨piece, List.mem_cons_self, member⟩
      | cons next rest =>
          rcases List.mem_append.mp member with inside | behind
          · exact Or.inr ⟨piece, List.mem_cons_self, inside⟩
          · rcases List.mem_cons.mp behind with rfl | further
            · exact Or.inl rfl
            · rcases ih further with same | ⟨other, listed, inside⟩
              · exact Or.inl same
              · exact Or.inr ⟨other, List.mem_cons_of_mem _ listed, inside⟩

section Paths

variable {segments : List (List Char)} (plain : ∀ s ∈ segments, PlainSegment s)
include plain

theorem inPath_of_mem_join {c : Char} (member : c ∈ Text.join '/' segments) :
    c = '/' ∨ InPath c := by
  rcases mem_join member with slash | ⟨segment, listed, inside⟩
  · exact Or.inl slash
  · exact Or.inr (inPath_of_isPlain ((plain segment listed).1 c inside))

theorem ne_of_mem_join {stop : Char} (stops : stop = '#' ∨ stop = '?' ∨ stop = '\\') :
    ∀ c ∈ Text.join '/' segments, c ≠ stop := by
  intro c member same
  subst same
  rcases inPath_of_mem_join plain member with slash | plain
  · revert slash
    rcases stops with rfl | rfl | rfl <;> decide
  · apply plain.inside
    rcases stops with rfl | rfl | rfl <;> decide

/-- Nothing of such a path is cut off. -/
theorem body_join : body (Text.join '/' segments) = Text.join '/' segments := by
  have visible : ∀ c ∈ Text.join '/' segments, 0x20 < c.toNat := by
    intro c member
    rcases inPath_of_mem_join plain member with rfl | plain
    · decide
    · exact plain.visible
  have clean := cleanTail_append visible []
  have nothing : cleanTail [] = [] := rfl
  rw [List.append_nil, nothing, List.append_nil] at clean
  unfold body
  rw [clean, List.takeWhile_eq_self_iff]
  exact fun c member => decide_eq_true (ne_of_mem_join plain (Or.inl rfl) c member)

theorem readSegments_join (some_ : segments ≠ []) :
    readSegments true (Text.join '/' segments) = .segments segments := by
  have slashes : ((Text.join '/' segments).map fun c => if c = '\\' then '/' else c) =
      Text.join '/' segments := by
    refine (List.map_congr_left fun c member => ?_).trans (List.map_id _)
    exact if_neg (ne_of_mem_join plain (Or.inr (Or.inr rfl)) c member)
  have pieces : Text.split '/' (Text.join '/' segments) = segments := by
    refine Text.split_join some_ fun segment listed inside => ?_
    exact (inPath_of_isPlain ((plain segment listed).1 _ inside)).inside (by decide)
  have kept : segments.map (escaped pathEscapes) = segments :=
    (List.map_congr_left fun segment listed => (plain segment listed).escaped_eq).trans
      (List.map_id _)
  unfold readSegments
  rw [if_pos rfl, slashes]
  dsimp only
  rw [pieces, resolve_of_plain plain, List.reverse_nil, List.nil_append, kept]

/-- A path of plain segments is read as it stands. -/
theorem below_join (some_ : segments ≠ []) (host : List Char) :
    below host (Text.join '/' segments) =
      ⟨"https".toList, host, none, .segments segments, none⟩ := by
  have noQuery : ∀ c ∈ Text.join '/' segments, decide (c ≠ '?') = true :=
    fun c member => decide_eq_true (ne_of_mem_join plain (Or.inr (Or.inl rfl)) c member)
  have query : Text.cut '?' (Text.join '/' segments) = none := by
    unfold Text.cut
    rw [List.dropWhile_eq_nil_iff.mpr noQuery]
  unfold below
  rw [body_join plain, List.takeWhile_eq_self_iff.mpr noQuery, readSegments_join plain some_, query]
  rfl

end Paths

end Url

end ClusterHarness
