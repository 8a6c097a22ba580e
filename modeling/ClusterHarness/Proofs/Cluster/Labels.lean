import ClusterHarness.Proofs.Cluster.Inquiries
import ClusterHarness.Proofs.Resource.Shapes
import ClusterHarness.Proofs.Text.Pieces
import ClusterHarness.Rehearsal.Cluster

/-!
# What label selectors ask for

The pieces of a selector between its commas are the pairs that it was made of, and each piece is cut
into key and value at its first equals sign.  So a selector asks for its pairs and for nothing else,
unless a comma in a pair or an equals sign in a key makes it ambiguous.
-/

namespace ClusterHarness

variable {σ α : Type}

namespace Label

/-- The pair can be told from what stands around it in a selector. -/
structure Separable (pair : String × String) : Prop where
  key : ',' ∉ pair.1.toList
  value : ',' ∉ pair.2.toList
  sign : '=' ∉ pair.1.toList

instance (pair : String × String) : Decidable (Separable pair) :=
  decidable_of_iff (',' ∉ pair.1.toList ∧ ',' ∉ pair.2.toList ∧ '=' ∉ pair.1.toList)
    ⟨fun ⟨key, value, sign⟩ => ⟨key, value, sign⟩, fun ⟨key, value, sign⟩ => ⟨key, value, sign⟩⟩

/-- The pairs that a selector spells, if there is an equals sign in each of its pieces. -/
def pairs? (selector : String) : Option (List (String × String)) :=
  (requirements selector.toList).map fun pairs =>
    pairs.map fun pair => (String.ofList pair.1, String.ofList pair.2)

/-- The metadata meet every requirement of a selector: each piece is a key, cut off at the first
equals sign, and the value that they give it. -/
def Meets (m : ObjectMeta) (selector : String) : Prop :=
  ∀ piece, Text.IsPiece ',' selector.toList piece → ∃ key value : String,
    piece = key.toList ++ '=' :: value.toList ∧ '=' ∉ key.toList ∧ m.label? key = some value

variable {pairs others : List (String × String)} {pair : String × String}

def piece (pair : String × String) : List Char := pair.1.toList ++ '=' :: pair.2.toList

theorem Separable.comma_not_mem_piece (separable : Separable pair) : ',' ∉ piece pair := by
  intro inside
  rcases List.mem_append.mp inside with key | rest
  · exact separable.key key
  · rcases List.mem_cons.mp rest with sign | value
    · cases sign
    · exact separable.value value

theorem Separable.cut_piece (separable : Separable pair) :
    Text.cut '=' (piece pair) = some (pair.1.toList, pair.2.toList) :=
  Text.cut_eq_some.mpr ⟨rfl, separable.sign⟩

theorem toList_selector (pairs : List (String × String)) :
    (selector pairs).toList = Text.join ',' (pairs.map piece) := by
  rw [selector, String.toList_ofList, selectorChars, List.map_map]
  rfl

theorem split_selector (some : pairs ≠ []) (separable : ∀ pair ∈ pairs, Separable pair) :
    Text.split ',' (selector pairs).toList = pairs.map piece := by
  rw [toList_selector]
  refine Text.split_join (fun none => some (List.map_eq_nil_iff.mp none)) ?_
  exact List.forall_mem_map.mpr fun pair member => (separable pair member).comma_not_mem_piece

theorem pairs?_selector (some_ : pairs ≠ []) (separable : ∀ pair ∈ pairs, Separable pair) :
    pairs? (selector pairs) = some pairs := by
  have cut : (pairs.map piece).mapM (Text.cut '=') =
      some (pairs.map fun pair => (pair.1.toList, pair.2.toList)) :=
    mapM_map_of_forall fun pair member => (separable pair member).cut_piece
  rw [pairs?, requirements, split_selector some_ separable, cut, Option.map_some, List.map_map]
  refine congrArg some ((List.map_congr_left fun pair _ => ?_).trans (List.map_id pairs))
  exact Prod.ext (String.ofList_toList) (String.ofList_toList)

/-- Nothing but the list without pairs has the empty selector. -/
theorem selector_eq_empty_iff : selector pairs = "" ↔ pairs = [] := by
  constructor
  · intro empty
    cases pairs with
    | nil => rfl
    | cons pair rest =>
        have sign : '=' ∈ (selector (pair :: rest)).toList := by
          rw [toList_selector]
          cases rest <;> simp [Text.join, piece]
        rw [empty] at sign
        cases sign
  · rintro rfl
    rfl

theorem selector_injective (separable : ∀ pair ∈ pairs, Separable pair)
    (separable' : ∀ pair ∈ others, Separable pair) (same : selector pairs = selector others) :
    pairs = others := by
  by_cases none : pairs = []
  · rw [selector_eq_empty_iff.mpr none] at same
    rw [none, selector_eq_empty_iff.mp same.symm]
  · have more : others ≠ [] := fun empty => none <| by
      rw [selector_eq_empty_iff.mpr empty] at same
      exact selector_eq_empty_iff.mp same
    have read := pairs?_selector none separable
    rw [same, pairs?_selector more separable'] at read
    exact (Option.some.inj read).symm

theorem meets_selector_iff (some_ : pairs ≠ []) (separable : ∀ pair ∈ pairs, Separable pair)
    (m : ObjectMeta) :
    Meets m (selector pairs) ↔ ∀ pair ∈ pairs, m.label? pair.1 = some pair.2 := by
  have pieces : ∀ text, Text.IsPiece ',' (selector pairs).toList text ↔
      ∃ pair ∈ pairs, piece pair = text := fun text => by
    rw [← Text.mem_split_iff, split_selector some_ separable, List.mem_map]
  constructor
  · intro meets pair member
    obtain ⟨key, value, same, sign, carried⟩ := meets _ ((pieces _).mpr ⟨pair, member, rfl⟩)
    have cut := (separable pair member).cut_piece
    rw [Text.cut_eq_some.mpr ⟨same, sign⟩] at cut
    obtain ⟨sameKey, sameValue⟩ := Prod.mk.inj (Option.some.inj cut)
    rw [← String.toList_inj.mp sameKey, ← String.toList_inj.mp sameValue, carried]
  · intro carries text isPiece
    obtain ⟨pair, member, rfl⟩ := (pieces text).mp isPiece
    exact ⟨pair.1, pair.2, rfl, (separable pair member).sign, carries pair member⟩

end Label

/-! ## Listings -/

def Target.selector? (target : Target) : Option String :=
  (target.query.find? (·.1 == "labelSelector")).map (·.2)

theorem labelQuery_eq_nil_iff {labels : List (String × String)} :
    labelQuery labels = [] ↔ labels = [] := by
  cases labels with
  | nil => exact ⟨fun _ => rfl, fun _ => rfl⟩
  | cons => exact ⟨nofun, nofun⟩

theorem selector?_labelQuery (path : String) (labels : List (String × String)) :
    Target.selector? ⟨path, labelQuery labels⟩ =
      if labels = [] then none else some (Label.selector labels) := by
  cases labels <;> rfl

section

variable [HasKind α]

def listed (ns : String) (answer : Except CallError String) : Except Error (List α) :=
  (answer.bind fun text => (parsed (ObjectList.codec HasKind.codec) text).map fun list =>
    list.items.getD []).mapError (.call (.list (World.kindOf α).name ns))

theorem World.yields_list (w : World σ) (ns : String) (labels : List (String × String)) :
    Yields (w.journaled.list α ns labels)
      (Inquired (ApiRequest.list (.namespaced ns) (kindOf α) (labelQuery labels)) (listed ns)) := by
  refine w.yields_inquiry fun s => ?_
  unfold World.list Session.during listOf listed
  rw [ExceptT.run_mk, stateM_bind_apply, exceptT_run_bind]
  obtain ⟨_ | text, _⟩ := (w.journaled.textOf _).run s
  · rfl
  · dsimp only [Except.bind]
    rw [exceptT_run_bind, ExceptT.run_mk]
    cases parsed (ObjectList.codec (HasKind.codec (α := α))) text <;> rfl

/-- One request is sent, if one can be made of the path and the query. -/
theorem Inquired.targets {ns : String} {labels : List (String × String)}
    {result : Except Error (List α)} {exchanges : List Exchange}
    (inquired : Inquired
      (ApiRequest.list (.namespaced ns) (World.kindOf α) (labelQuery labels)) (listed ns)
      result exchanges) :
    exchanges.map (·.request.target) =
      (Target.make ((World.kindOf α).path ns) (labelQuery labels)).toList := by
  cases inquired with
  | unasked invalid =>
      have unmade : Target.make ((World.kindOf α).path ns) (labelQuery labels) = none :=
        (ApiRequest.make_eq_error.mp invalid).1
      rw [unmade]
      rfl
  | @asked e made =>
      obtain ⟨target, known, same⟩ := ApiRequest.make_eq_ok.mp made
      have known : Target.make ((World.kindOf α).path ns) (labelQuery labels) = some target := known
      rw [known, List.map_singleton, same]
      rfl

/-- Where the path may stand in a target as it is, one request is sent, and it carries the selector
of the labels, if there are labels. -/
theorem Inquired.selectors {ns : String} {labels : List (String × String)}
    {result : Except Error (List α)} {exchanges : List Exchange}
    (inquired : Inquired
      (ApiRequest.list (.namespaced ns) (World.kindOf α) (labelQuery labels)) (listed ns)
      result exchanges)
    (plain : ((World.kindOf α).path ns).toList.all Target.pathChar = true) :
    exchanges.map (·.request.target.selector?) =
      [if labels = [] then none else some (Label.selector labels)] := by
  have targets := inquired.targets
  rw [Target.make_of_pathChar plain] at targets
  have selectors := congrArg (List.map Target.selector?) targets
  rw [List.map_map] at selectors
  exact selectors.trans (congrArg (fun selector => [selector]) (selector?_labelQuery _ labels))

end

/-- The pairs that a selector was made of are read back from it.  So different pairs make different
selectors, and exactly the objects that carry all pairs meet a selector.  A listing makes a query
exactly if there are labels to ask for, and what is sent then carries their selector. -/
theorem Label.selector_unambiguous (α : Type) [HasKind α] :
    (∀ pairs, pairs ≠ [] → (∀ pair ∈ pairs, Separable pair) →
      pairs? (selector pairs) = some pairs) ∧
    (∀ pairs others, (∀ pair ∈ pairs, Separable pair) → (∀ pair ∈ others, Separable pair) →
      selector pairs = selector others → pairs = others) ∧
    (∀ pairs, pairs ≠ [] → (∀ pair ∈ pairs, Separable pair) → ∀ m : ObjectMeta,
      Meets m (selector pairs) ↔ ∀ pair ∈ pairs, m.label? pair.1 = some pair.2) ∧
    (∀ labels, labelQuery labels = [] ↔ labels = []) ∧
    ∀ {σ : Type} (w : World σ) (ns : String) (labels : List (String × String)),
      Yields (w.journaled.list α ns labels) fun _ exchanges =>
        exchanges.map (·.request.target) =
          (Target.make ((World.kindOf α).path ns) (labelQuery labels)).toList ∧
        (((World.kindOf α).path ns).toList.all Target.pathChar = true →
          exchanges.map (·.request.target.selector?) =
            [if labels = [] then none else some (selector labels)]) := by
  refine ⟨fun _ => pairs?_selector, fun _ _ => selector_injective, fun _ => meets_selector_iff,
    fun _ => labelQuery_eq_nil_iff, fun w ns labels => ?_⟩
  exact (w.yields_list ns labels).mono fun _ _ inquired => ⟨inquired.targets, inquired.selectors⟩

namespace Rehearsal

/-- A value may hold an equals sign, or nothing at all. -/
def oddLabels : List (String × String) := [("app", "a=b"), ("tier", "")]

/-- Odd values are read back, and a listing sends them. -/
theorem oddLabels_unambiguous :
    (oddLabels ≠ [] ∧ ∀ pair ∈ oddLabels, Label.Separable pair) ∧
      Label.pairs? "app=a=b,tier=" = some oddLabels ∧
      (∀ others, (∀ pair ∈ others, Label.Separable pair) →
        Label.selector others = "app=a=b,tier=" → others = oddLabels) ∧
      (∀ m : ObjectMeta, Label.Meets m "app=a=b,tier=" ↔
        m.label? "app" = some "a=b" ∧ m.label? "tier" = some "") ∧
      Yields ((cluster [] (.missing []) ⟨⟨2023, 3, 1⟩, 0, 0, 0⟩).journaled.list Pod "test"
          oddLabels)
        fun _ exchanges =>
          exchanges.map (·.request.target.selector?) = [some "app=a=b,tier="] := by
  have separable : ∀ pair ∈ oddLabels, Label.Separable pair := by decide
  have spelled : Label.selector oddLabels = "app=a=b,tier=" := by decide +kernel
  obtain ⟨reads, injective, meets, _, lists⟩ := Label.selector_unambiguous Pod
  rw [← spelled]
  refine ⟨⟨nofun, separable⟩, reads oddLabels nofun separable, fun others separable' same =>
    injective others oddLabels separable' separable same, fun m => ?_, ?_⟩
  · refine (meets oddLabels nofun separable m).trans ?_
    simp [oddLabels]
  · exact (lists _ "test" oddLabels).mono fun _ _ sent => sent.2 (by decide +kernel)

end Rehearsal

end ClusterHarness
