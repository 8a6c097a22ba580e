import ClusterHarness.Text.Blank
import Mathlib.Data.List.DropRight
import Mathlib.Data.List.TakeWhile

/-!
# Pieces between separators and texts without blanks around them

Splitting gives what stands between two separators or between one and an end of the text, and joining
undoes it.  Trimming gives what is left without the blanks at both ends.
-/

namespace ClusterHarness

namespace Text

/-! ## Trimming -/

theorem dropEndWhile_append {p : Char → Bool} {first : List Char} (second : List Char)
    (kept : dropEndWhile p first = first) :
    dropEndWhile p (first ++ second) = first ++ dropEndWhile p second := by
  have reversed : first.reverse.dropWhile p = first.reverse := List.reverse_eq_iff.mp kept
  unfold dropEndWhile
  rw [List.reverse_append, List.dropWhile_append]
  split
  · next gone =>
      rw [reversed, List.reverse_reverse, List.isEmpty_iff.mp gone, List.reverse_nil,
        List.append_nil]
  · rw [List.reverse_append, List.reverse_reverse]

theorem dropEndWhile_eq_self {p : Char → Bool} {text : List Char} (none : ∀ c ∈ text, p c = false) :
    dropEndWhile p text = text := by
  have kept : text.reverse.dropWhile p = text.reverse := by
    refine List.dropWhile_eq_self_iff.mpr fun inside => ?_
    rw [none _ (List.mem_reverse.mp (List.getElem_mem inside))]
    exact Bool.false_ne_true
  rw [dropEndWhile, kept, List.reverse_reverse]

theorem dropEndWhile_append_of_pos {p : Char → Bool} (text : List Char) {dropped : List Char}
    (all : ∀ c ∈ dropped, p c = true) :
    dropEndWhile p (text ++ dropped) = dropEndWhile p text := by
  unfold dropEndWhile
  rw [List.reverse_append, List.dropWhile_append_of_pos fun c member =>
    all c (List.mem_reverse.mp member)]

def Blanks (text : List Char) : Prop := ∀ c ∈ text, isBlank c = true

theorem Blanks.nil : Blanks [] := nofun

/-- The text begins and ends with characters that are no blanks, if it is not empty. -/
structure Tight (text : List Char) : Prop where
  head : ∀ c ∈ text.head?, isBlank c = false
  last : ∀ c ∈ text.getLast?, isBlank c = false

/-- What is left of a text without the blanks around it. -/
def Trims (text left : List Char) : Prop :=
  ∃ before after, text = before ++ left ++ after ∧ Blanks before ∧ Blanks after ∧ Tight left

/-- Blanks around a text do not count. -/
theorem trim_append {before after : List Char} (blank : Blanks before) (blank' : Blanks after)
    (text : List Char) : trim (before ++ text ++ after) = trim text := by
  unfold trim
  rw [List.append_assoc, List.dropWhile_append_of_pos blank, List.dropWhile_append]
  split
  · next gone =>
      rw [List.isEmpty_iff.mp gone, List.dropWhile_eq_nil_iff.mpr blank']
  · exact dropEndWhile_append_of_pos _ blank'

theorem trim_eq_self {text : List Char} (tight : Tight text) : trim text = text := by
  obtain ⟨head, last⟩ := tight
  have front : text.dropWhile isBlank = text := by
    cases text with
    | nil => rfl
    | cons c rest => exact List.dropWhile_cons_of_neg (by simp [head c rfl])
  unfold trim
  rw [front]
  refine List.rdropWhile_eq_self_iff.mpr fun some => ?_
  rw [last _ (List.getLast?_eq_some_getLast some)]
  exact Bool.false_ne_true

theorem trims_trim (text : List Char) : Trims text (trim text) := by
  have front : text = text.takeWhile isBlank ++ text.dropWhile isBlank :=
    List.takeWhile_append_dropWhile.symm
  have back : text.dropWhile isBlank =
      trim text ++ (text.dropWhile isBlank).rtakeWhile isBlank :=
    (List.rdropWhile_append_rtakeWhile ..).symm
  refine ⟨text.takeWhile isBlank, (text.dropWhile isBlank).rtakeWhile isBlank, ?_,
    fun c member => List.mem_takeWhile_imp member, fun c member => List.mem_rtakeWhile_imp member,
    ?_, ?_⟩
  · rw [List.append_assoc, ← back, ← front]
  · intro c first
    obtain ⟨more, kept⟩ := List.head?_eq_some_iff.mp first
    rw [kept, List.cons_append] at back
    have visible := List.head?_dropWhile_not isBlank text
    rw [back] at visible
    simpa using visible
  · intro c last
    obtain ⟨some, same⟩ := List.mem_getLast?_eq_getLast last
    have kept := List.rdropWhile_last_not isBlank (text.dropWhile isBlank) some
    rw [same]
    exact Bool.eq_false_iff.mpr kept

theorem trims_iff {text left : List Char} : Trims text left ↔ trim text = left := by
  constructor
  · rintro ⟨before, after, rfl, blank, blank', tight⟩
    rw [trim_append blank blank', trim_eq_self tight]
  · rintro rfl
    exact trims_trim text

/-! ## Parts -/

theorem contains_iff {part text : List Char} : contains part text = true ↔ part <:+: text := by
  induction text with
  | nil => rw [contains, List.isEmpty_iff, List.infix_nil]
  | cons c rest ih => rw [contains, Bool.or_eq_true, List.isPrefixOf_iff_prefix, ih, List.infix_cons_iff]

theorem hasPart_iff {part text : String} :
    hasPart part text = true ↔ part.toList <:+: text.toList :=
  contains_iff

/-! ## Splitting and joining -/

section

variable {separator : Char}

theorem split_ne_nil (separator : Char) (text : List Char) : split separator text ≠ [] := by
  cases text with
  | nil => nofun
  | cons c rest =>
      unfold split
      split
      · nofun
      · split <;> nofun

/-- Where two texts are joined by a separator, the pieces of one follow those of the other. -/
theorem split_append_cons (separator : Char) (first second : List Char) :
    split separator (first ++ separator :: second) =
      split separator first ++ split separator second := by
  induction first with
  | nil => exact if_pos rfl
  | cons c first ih =>
      rw [List.cons_append, split, split, ih]
      split
      · rfl
      · cases pieces : split separator first with
        | nil => exact absurd pieces (split_ne_nil separator first)
        | cons piece pieces => rfl

theorem split_of_not_mem {piece : List Char} (whole : separator ∉ piece) :
    split separator piece = [piece] := by
  induction piece with
  | nil => rfl
  | cons c piece ih =>
      have other := List.ne_of_not_mem_cons whole
      have inner := List.not_mem_of_not_mem_cons whole
      rw [split, if_neg (Ne.symm other), ih inner]

theorem split_append {piece : List Char} (whole : separator ∉ piece) (rest : List Char) :
    split separator (piece ++ separator :: rest) = piece :: split separator rest := by
  rw [split_append_cons, split_of_not_mem whole, List.singleton_append]

/-- Pieces without the separator are split again where they were joined. -/
theorem split_join {pieces : List (List Char)} (some_ : pieces ≠ [])
    (whole : ∀ piece ∈ pieces, separator ∉ piece) :
    split separator (join separator pieces) = pieces := by
  induction pieces with
  | nil => exact absurd rfl some_
  | cons piece rest ih =>
      have first := whole piece List.mem_cons_self
      cases rest with
      | nil => exact split_of_not_mem first
      | cons next rest =>
          rw [join, split_append first, ih (List.cons_ne_nil _ _) fun other member =>
            whole other (List.mem_cons_of_mem _ member)]
          nofun

theorem not_mem_of_mem_split {text piece : List Char} (member : piece ∈ split separator text) :
    separator ∉ piece := by
  induction text generalizing piece with
  | nil =>
      cases List.mem_singleton.mp member
      nofun
  | cons c rest ih =>
      unfold split at member
      split at member
      · rcases List.mem_cons.mp member with rfl | later
        · nofun
        · exact ih later
      · next other =>
          cases pieces : split separator rest with
          | nil => exact absurd pieces (split_ne_nil separator rest)
          | cons first others =>
              rw [pieces] at member ih
              rcases List.mem_cons.mp member with rfl | later
              · exact List.not_mem_cons_of_ne_of_not_mem (Ne.symm other) (ih List.mem_cons_self)
              · exact ih (List.mem_cons_of_mem _ later)

theorem join_cons (separator : Char) (piece : List Char) {rest : List (List Char)}
    (some : rest ≠ []) :
    join separator (piece :: rest) = piece ++ separator :: join separator rest := by
  cases rest with
  | nil => exact absurd rfl some
  | cons => rfl

theorem join_append {first second : List (List Char)} (some : first ≠ []) (some' : second ≠ []) :
    join separator (first ++ second) =
      join separator first ++ separator :: join separator second := by
  induction first with
  | nil => exact absurd rfl some
  | cons piece first ih =>
      cases first with
      | nil => exact join_cons separator piece some'
      | cons next first =>
          have more : next :: first ≠ [] := List.cons_ne_nil next first
          rw [List.cons_append, join_cons _ _ (List.append_ne_nil_of_left_ne_nil more second),
            ih more, join_cons _ _ more, List.append_assoc, List.cons_append]

/-- Every text is put together from its pieces. -/
theorem join_split (separator : Char) (text : List Char) :
    join separator (split separator text) = text := by
  induction text with
  | nil => rfl
  | cons c rest ih =>
      unfold split
      split
      · next same => rw [join_cons _ _ (split_ne_nil separator rest), ih, same, List.nil_append]
      · cases pieces : split separator rest with
        | nil => exact absurd pieces (split_ne_nil separator rest)
        | cons piece others =>
            rw [pieces] at ih
            rw [← ih]
            cases others <;> rfl

/-- A text is cut at a separator with none before it. -/
theorem cut_eq_some {text first second : List Char} :
    cut separator text = some (first, second) ↔
      text = first ++ separator :: second ∧ separator ∉ first := by
  unfold cut
  constructor
  · intro cut
    split at cut
    · cases cut
    · next c rest left =>
        cases cut
        have stopped := List.head?_dropWhile_not (fun c => decide (c ≠ separator)) text
        rw [left] at stopped
        obtain rfl : c = separator := by simpa using stopped
        refine ⟨?_, fun inside => ?_⟩
        · rw [← left, List.takeWhile_append_dropWhile]
        · simpa using List.mem_takeWhile_imp inside
  · rintro ⟨rfl, whole⟩
    have passed : ∀ c ∈ first, decide (c ≠ separator) = true := fun c inside =>
      decide_eq_true (ne_of_mem_of_not_mem inside whole)
    rw [List.dropWhile_append_of_pos passed, List.takeWhile_append_of_pos passed,
      List.dropWhile_cons_of_neg (by simp), List.takeWhile_cons_of_neg (by simp)]
    dsimp only
    rw [List.append_nil]

/-- The piece stands in the text between two separators, or between one and an end. -/
def IsPiece (separator : Char) (text piece : List Char) : Prop :=
  separator ∉ piece ∧ ∃ before after, text = before ++ piece ++ after ∧
    (before = [] ∨ before.getLast? = some separator) ∧
    (after = [] ∨ after.head? = some separator)

theorem mem_split_iff {text piece : List Char} :
    piece ∈ split separator text ↔ IsPiece separator text piece := by
  constructor
  · intro member
    refine ⟨not_mem_of_mem_split member, ?_⟩
    obtain ⟨earlier, later, pieces⟩ := List.append_of_mem member
    have whole := join_split separator text
    rw [pieces] at whole
    have rest : ∃ after, join separator (piece :: later) = piece ++ after ∧
        (after = [] ∨ after.head? = some separator) := by
      cases later with
      | nil => exact ⟨[], (List.append_nil piece).symm, .inl rfl⟩
      | cons next later => exact ⟨separator :: join separator (next :: later), rfl, .inr rfl⟩
    obtain ⟨after, joined, ends⟩ := rest
    cases earlier with
    | nil => exact ⟨[], after, whole.symm.trans joined, .inl rfl, ends⟩
    | cons first earlier =>
        refine ⟨join separator (first :: earlier) ++ [separator], after, ?_,
          .inr List.getLast?_concat, ends⟩
        rw [← whole, join_append (List.cons_ne_nil _ _) (List.cons_ne_nil _ _), joined]
        simp
  · rintro ⟨whole, before, after, rfl, begins, ends⟩
    have rest : piece ∈ split separator (piece ++ after) := by
      rcases ends with rfl | begun
      · rw [List.append_nil, split_of_not_mem whole]
        exact List.mem_singleton_self piece
      · obtain ⟨more, rfl⟩ := List.head?_eq_some_iff.mp begun
        rw [split_append whole]
        exact List.mem_cons_self
    rcases begins with rfl | ended
    · exact rest
    · obtain ⟨front, rfl⟩ := List.getLast?_eq_some_iff.mp ended
      rw [List.append_assoc, List.append_assoc, List.singleton_append, split_append_cons]
      exact List.mem_append_right _ rest

end

end Text

end ClusterHarness
