import ClusterHarness.Proofs.Text.Pieces
import ClusterHarness.SuiteFilter

/-!
# What filters of suites mean

The tokens of a filter say which suites run.  So a filter can be spelled in many ways: neither the
order of the tokens nor repetitions, empty pieces or blanks around them make a difference.
-/

namespace ClusterHarness

namespace SuiteFilter

open Text

/-! ## Tokens -/

/-- What stands between commas, without the blanks around it, is a token unless nothing is left. -/
def IsToken (text token : List Char) : Prop :=
  token ≠ [] ∧ ∃ piece, IsPiece ',' text piece ∧ Trims piece token

/-- The token asks for suites that carry it. -/
def IsBare (token : List Char) : Prop := token.head? ≠ some '!'

/-- The token keeps suites out that carry the label. -/
def Negates (token label : List Char) : Prop := ∃ rest, token = '!' :: rest ∧ Trims rest label

/-- What the tokens of a filter say of a suite with these labels. -/
def Selects (text : List Char) (labels : List (List Char)) : Prop :=
  (∀ token label, IsToken text token → Negates token label → label ∉ labels) ∧
    ((¬∃ token, IsToken text token ∧ IsBare token) ∨
      ∃ token, IsToken text token ∧ IsBare token ∧ token ∈ labels)

theorem mem_tokens_iff {text token : List Char} : token ∈ tokens text ↔ IsToken text token := by
  unfold tokens IsToken
  rw [List.mem_filter, List.mem_map, and_comm]
  refine and_congr (by simp) (exists_congr fun piece => and_congr mem_split_iff trims_iff.symm)

/-! ## What a filter is made of -/

/-- The label that a token keeps out. -/
def negated? : List Char → Option (List Char)
  | '!' :: label => some (trim label)
  | _ => none

theorem negated?_eq_some {token label : List Char} :
    negated? token = some label ↔ Negates token label := by
  unfold negated? Negates
  split
  · next rest =>
      rw [Option.some_inj, ← trims_iff]
      constructor
      · intro trims
        exact ⟨rest, rfl, trims⟩
      · rintro ⟨_, ⟨⟩, trims⟩
        exact trims
  · next bare =>
      refine ⟨nofun, ?_⟩
      rintro ⟨rest, rfl, _⟩
      exact absurd rfl (bare rest)

theorem negated?_eq_none {token : List Char} : negated? token = none ↔ IsBare token := by
  unfold negated? IsBare
  split
  · simp
  · next bare =>
      refine ⟨fun _ first => ?_, fun _ => rfl⟩
      obtain ⟨rest, rfl⟩ := List.head?_eq_some_iff.mp first
      exact bare rest rfl

theorem add_eq (filter : SuiteFilter) (token : List Char) :
    filter.add token =
      ⟨filter.included ++ [token].filter fun token => (negated? token).isNone,
        filter.excluded ++ [token].filterMap negated?⟩ := by
  unfold add
  split
  · simp [negated?]
  · next bare =>
      have plain : negated? token = none := by
        rw [negated?_eq_none, IsBare]
        intro first
        obtain ⟨rest, rfl⟩ := List.head?_eq_some_iff.mp first
        exact bare rest rfl
      simp [plain]

/-- Bare tokens are included and the labels of the others excluded, in their order. -/
theorem foldl_add (tokens : List (List Char)) (filter : SuiteFilter) :
    tokens.foldl add filter =
      ⟨filter.included ++ tokens.filter fun token => (negated? token).isNone,
        filter.excluded ++ tokens.filterMap negated?⟩ := by
  induction tokens generalizing filter with
  | nil => simp
  | cons token rest ih =>
      rw [List.foldl_cons, ih, add_eq]
      simp only [List.append_assoc, ← List.filter_append, ← List.filterMap_append,
        List.singleton_append]

theorem parse_eq (text : List Char) :
    parse text = ⟨(tokens text).filter fun token => (negated? token).isNone,
      (tokens text).filterMap negated?⟩ :=
  foldl_add (tokens text) empty

theorem mem_included {text token : List Char} :
    token ∈ (parse text).included ↔ IsToken text token ∧ IsBare token := by
  rw [parse_eq, List.mem_filter, mem_tokens_iff, Option.isNone_iff_eq_none, negated?_eq_none]

theorem mem_excluded {text label : List Char} :
    label ∈ (parse text).excluded ↔ ∃ token, IsToken text token ∧ Negates token label := by
  rw [parse_eq, List.mem_filterMap]
  exact exists_congr fun token => and_congr mem_tokens_iff negated?_eq_some

theorem enabled_iff {filter : SuiteFilter} {labels : List (List Char)} :
    filter.enabled labels = true ↔
      (∀ label ∈ filter.excluded, label ∉ labels) ∧
        (filter.included = [] ∨ ∃ label ∈ filter.included, label ∈ labels) := by
  unfold enabled
  by_cases keptOut : ∃ label ∈ filter.excluded, label ∈ labels
  · have any : filter.excluded.any labels.contains = true := by simpa using keptOut
    obtain ⟨label, excluded, carried⟩ := keptOut
    rw [if_pos any]
    exact ⟨nofun, fun selected => absurd carried (selected.1 label excluded)⟩
  · have none : filter.excluded.any labels.contains = false := by simpa using keptOut
    have spared : ∀ label ∈ filter.excluded, label ∉ labels := by simpa using keptOut
    rw [none, if_neg Bool.false_ne_true, Bool.or_eq_true, List.isEmpty_iff, List.any_eq_true,
      and_iff_right spared]
    simp only [List.contains_iff_mem]

/-- A suite runs exactly if the tokens say so. -/
theorem enabled_parse_iff (text : List Char) (labels : List (List Char)) :
    (parse text).enabled labels = true ↔ Selects text labels := by
  rw [enabled_iff, Selects]
  refine and_congr ?_ (or_congr ?_ ?_)
  · constructor
    · intro spared token label isToken negates
      exact spared label (mem_excluded.mpr ⟨token, isToken, negates⟩)
    · intro spared label excluded
      obtain ⟨token, isToken, negates⟩ := mem_excluded.mp excluded
      exact spared token label isToken negates
  · rw [List.eq_nil_iff_forall_not_mem, not_exists]
    exact forall_congr' fun token => not_congr mem_included
  · exact exists_congr fun token => by rw [mem_included, and_assoc]

/-! ## Other spellings -/

/-- Pieces that are spelled in another way: in another order, repeated, with empty pieces among
them, or with blanks around them or after an exclamation mark. -/
inductive Respelled : List (List Char) → List (List Char) → Prop where
  | permuted {pieces others : List (List Char)} (perm : pieces.Perm others) :
      Respelled pieces others
  | repeated {piece : List Char} {pieces : List (List Char)} (member : piece ∈ pieces) :
      Respelled pieces (piece :: pieces)
  | empty {gap : List Char} (pieces : List (List Char)) (blank : Blanks gap) :
      Respelled pieces (gap :: pieces)
  | padded {before after : List Char} (piece : List Char) (pieces : List (List Char))
      (blank : Blanks before) (blank' : Blanks after) :
      Respelled (piece :: pieces) ((before ++ piece ++ after) :: pieces)
  | spaced {gap : List Char} (label : List Char) (pieces : List (List Char))
      (blank : Blanks gap) :
      Respelled (('!' :: label) :: pieces) (('!' :: (gap ++ label)) :: pieces)
  | symm {pieces others : List (List Char)} (same : Respelled pieces others) :
      Respelled others pieces
  | trans {pieces others more : List (List Char)} (first : Respelled pieces others)
      (second : Respelled others more) : Respelled pieces more

/-- What a piece adds to a filter: a label that it asks for, or one that it keeps out. -/
def meaning (piece : List Char) : Option (List Char ⊕ List Char) :=
  if trim piece = [] then none
  else some ((negated? (trim piece)).elim (.inl (trim piece)) .inr)

theorem mem_included_iff {text label : List Char} :
    label ∈ (parse text).included ↔ ∃ piece ∈ split ',' text, meaning piece = some (.inl label) := by
  rw [parse_eq, tokens, List.filter_filter, List.mem_filter, List.mem_map]
  constructor
  · rintro ⟨⟨piece, member, rfl⟩, kept⟩
    refine ⟨piece, member, ?_⟩
    have bare : negated? (trim piece) = none ∧ trim piece ≠ [] := by simpa using kept
    rw [meaning, if_neg bare.2, bare.1]
    rfl
  · rintro ⟨piece, member, means⟩
    unfold meaning at means
    split at means
    · cases means
    · next some =>
        cases negation : negated? (trim piece) with
        | some _ =>
            rw [negation] at means
            cases means
        | none =>
            rw [negation] at means
            cases means
            exact ⟨⟨piece, member, rfl⟩, by simp [negation, some]⟩

theorem mem_excluded_iff {text label : List Char} :
    label ∈ (parse text).excluded ↔ ∃ piece ∈ split ',' text, meaning piece = some (.inr label) := by
  rw [parse_eq, tokens, List.mem_filterMap]
  constructor
  · rintro ⟨token, kept, negation⟩
    obtain ⟨listed, some⟩ := List.mem_filter.mp kept
    obtain ⟨piece, member, rfl⟩ := List.mem_map.mp listed
    refine ⟨piece, member, ?_⟩
    rw [meaning, if_neg (by simpa using some), negation]
    rfl
  · rintro ⟨piece, member, means⟩
    unfold meaning at means
    split at means
    · cases means
    · next some =>
        cases negation : negated? (trim piece) with
        | none =>
            rw [negation] at means
            cases means
        | some _ =>
            rw [negation] at means
            cases means
            exact ⟨trim piece, List.mem_filter.mpr ⟨List.mem_map_of_mem member, by simp [some]⟩,
              negation⟩

theorem trim_of_blanks {gap : List Char} (blank : Blanks gap) : trim gap = [] := by
  have nothing := trim_append blank Blanks.nil []
  rwa [List.append_nil, List.append_nil] at nothing

/-- An exclamation mark is no blank, so all that follows it up to the last visible character is
kept. -/
theorem trim_mark (label : List Char) :
    trim ('!' :: label) = '!' :: dropEndWhile isBlank label := by
  have kept : dropEndWhile isBlank ['!'] = ['!'] := dropEndWhile_eq_self (List.forall_mem_singleton.mpr rfl)
  exact dropEndWhile_append label kept

theorem trim_dropEndWhile (text : List Char) : trim (dropEndWhile isBlank text) = trim text := by
  have whole : dropEndWhile isBlank text ++ text.rtakeWhile isBlank = text :=
    List.rdropWhile_append_rtakeWhile ..
  have blank : Blanks (text.rtakeWhile isBlank) := fun c member => List.mem_rtakeWhile_imp member
  have padded := trim_append Blanks.nil blank (dropEndWhile isBlank text)
  rwa [List.nil_append, whole, eq_comm] at padded

theorem meaning_mark (label : List Char) : meaning ('!' :: label) = some (.inr (trim label)) := by
  unfold meaning
  rw [trim_mark, if_neg (List.cons_ne_nil _ _), negated?, trim_dropEndWhile]
  rfl

/-- The pieces of another spelling have the same meanings. -/
theorem Respelled.meanings {pieces others : List (List Char)} (same : Respelled pieces others)
    (m : List Char ⊕ List Char) :
    (∃ piece ∈ pieces, meaning piece = some m) ↔ ∃ piece ∈ others, meaning piece = some m := by
  induction same with
  | permuted perm => exact exists_congr fun piece => and_congr_left fun _ => perm.mem_iff
  | repeated member =>
      rw [List.exists_mem_cons_iff]
      exact ⟨Or.inr, fun means => means.elim (fun here => ⟨_, member, here⟩) id⟩
  | empty pieces blank =>
      have nothing : ∀ {gap}, Blanks gap → meaning gap = none := fun blank =>
        if_pos (trim_of_blanks blank)
      rw [List.exists_mem_cons_iff, nothing blank]
      simp
  | padded piece pieces blank blank' =>
      rw [List.exists_mem_cons_iff, List.exists_mem_cons_iff, meaning, meaning,
        trim_append blank blank']
  | spaced label pieces blank =>
      have gone := trim_append blank Blanks.nil label
      rw [List.append_nil] at gone
      rw [List.exists_mem_cons_iff, List.exists_mem_cons_iff, meaning_mark, meaning_mark, gone]
  | symm _ ih => exact ih.symm
  | trans _ _ ih ih' => exact ih.trans ih'

theorem enabled_congr {filter other : SuiteFilter}
    (included : ∀ label, label ∈ filter.included ↔ label ∈ other.included)
    (excluded : ∀ label, label ∈ filter.excluded ↔ label ∈ other.excluded)
    (labels : List (List Char)) : filter.enabled labels = other.enabled labels := by
  rw [Bool.eq_iff_iff, enabled_iff, enabled_iff]
  simp only [List.eq_nil_iff_forall_not_mem, included, excluded]

/-- A suite runs exactly if the tokens of the filter say so.  Two filters are joined by a comma, and
another spelling selects the same suites. -/
theorem means_its_tokens (text : List Char) :
    (∀ labels, (parse text).enabled labels = true ↔ Selects text labels) ∧
    (∀ other, parse (text ++ ',' :: other) =
      ⟨(parse text).included ++ (parse other).included,
        (parse text).excluded ++ (parse other).excluded⟩) ∧
    (∀ other, Respelled (split ',' text) (split ',' other) →
      ∀ labels, (parse other).enabled labels = (parse text).enabled labels) := by
  refine ⟨enabled_parse_iff text, fun other => ?_, fun other same labels => ?_⟩
  · have joined : tokens (text ++ ',' :: other) = tokens text ++ tokens other := by
      simp only [tokens, split_append_cons, List.map_append, List.filter_append]
    simp only [parse_eq, joined, List.filter_append, List.filterMap_append]
  · refine enabled_congr (fun label => ?_) (fun label => ?_) labels
    · rw [mem_included_iff, mem_included_iff, same.meanings]
    · rw [mem_excluded_iff, mem_excluded_iff, same.meanings]

/-- Another order, an empty piece, a repetition and more blanks. -/
theorem means_its_tokens_respelled :
    Respelled (split ',' "release,!slow".toList) (split ',' " !  slow,,release,release ".toList) ∧
      ∀ labels, (parse " !  slow,,release,release ".toList).enabled labels =
        (parse "release,!slow".toList).enabled labels := by
  have blank : Blanks [' '] := List.forall_mem_singleton.mpr rfl
  have blanks : Blanks [' ', ' '] := List.forall_mem_cons.mpr ⟨rfl, blank⟩
  have same : Respelled (split ',' "release,!slow".toList)
      (split ',' " !  slow,,release,release ".toList) := by
    show Respelled ["release".toList, "!slow".toList]
      [" !  slow".toList, "".toList, "release".toList, "release ".toList]
    refine .trans (.padded _ _ Blanks.nil blank) ?_
    refine .trans (.repeated List.mem_cons_self) ?_
    refine .trans (.symm (.padded "release".toList _ Blanks.nil blank)) ?_
    refine .trans (.empty _ Blanks.nil) ?_
    refine .trans (.permuted (List.perm_append_comm : (["".toList, "release".toList,
      "release ".toList] ++ ["!slow".toList]).Perm _)) ?_
    refine .trans (.spaced "slow".toList _ blanks) ?_
    exact .padded "!  slow".toList _ blank Blanks.nil
  exact ⟨same, (means_its_tokens "release,!slow".toList).2.2 _ same⟩

end SuiteFilter

end ClusterHarness
