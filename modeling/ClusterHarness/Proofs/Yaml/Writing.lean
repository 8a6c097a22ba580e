import ClusterHarness.Proofs.Text.Utf8
import ClusterHarness.Rehearsal.Writer

/-!
# Writing values that are read again

A text is read as a value that is nested no deeper than the limit.  A faithful writer writes all
such values as texts that are read as the values again, if it writes them at all.
-/

namespace ClusterHarness

namespace Yaml

/-! ## Depth -/

mutual

/-- How deep collections are nested in a value. -/
def depth : Yaml → Nat
  | .seq items => depthOfItems items + 1
  | .map pairs => depthOfPairs pairs + 1
  | .tagged _ value => depth value
  | _ => 0

def depthOfItems : List Yaml → Nat
  | [] => 0
  | item :: rest => max (depth item) (depthOfItems rest)

def depthOfPairs : List (Yaml × Yaml) → Nat
  | [] => 0
  | (key, value) :: rest => max (max (depth key) (depth value)) (depthOfPairs rest)

end

theorem depthOfPairs_le_iff {pairs : List (Yaml × Yaml)} {n : Nat} :
    depthOfPairs pairs ≤ n ↔ ∀ pair ∈ pairs, pair.1.depth ≤ n ∧ pair.2.depth ≤ n := by
  induction pairs with
  | nil => simp [depthOfPairs]
  | cons pair rest ih => rw [depthOfPairs, Nat.max_le, Nat.max_le, List.forall_mem_cons, ih]

/-! ## What is read -/

theorem depth_ofPlain? {text : String} {value : Yaml} (read : ofPlain? text = some value) :
    value.depth = 0 := by
  unfold ofPlain? at read
  grind [depth]

theorem depth_ofCommonTag? {tag text : String} {value : Yaml}
    (read : ofCommonTag? tag text = some value) : value.depth = 0 := by
  unfold ofCommonTag? at read
  dsimp only at read
  split at read
  · obtain ⟨_, _, rfl⟩ := Option.map_eq_some_iff.mp read
    rfl
  · obtain ⟨_, _, rfl⟩ := Option.map_eq_some_iff.mp read
    rfl
  · obtain ⟨_, _, rfl⟩ := Option.map_eq_some_iff.mp read
    rfl
  · split at read <;> cases read
    rfl
  · cases read
    rfl

theorem depth_tagged? {tag : Option String} {value named : Yaml}
    (read : tagged? tag value = some named) : named.depth = value.depth := by
  unfold tagged? at read
  split at read <;> cases read <;> rfl

theorem depth_ofScalar {depth : Nat} {tag : Option String} {plain : Bool} {text : String}
    {value : Yaml} (read : ofNode depth (.scalar tag plain text) = some value) :
    value.depth = 0 := by
  have own : ∀ {inner}, (if plain then ofPlain? text else some (.str text)) = some inner →
      inner.depth = 0 := by
    intro inner read
    split at read
    · exact depth_ofPlain? read
    · cases read
      rfl
  unfold ofNode at read
  split at read
  · obtain ⟨inner, readInner, named⟩ := Option.bind_eq_some_iff.mp read
    exact (depth_tagged? named).trans (own readInner)
  · split at read
    · exact depth_ofCommonTag? read
    · exact own read

mutual

/-- The value of a node is nested no deeper than was allowed. -/
theorem depth_ofNode {depth : Nat} {node : Node} {value : Yaml}
    (read : ofNode depth node = some value) : value.depth ≤ depth := by
  cases node with
  | scalar => exact Nat.le_trans (Nat.le_of_eq (depth_ofScalar read)) (Nat.zero_le depth)
  | seq tag items =>
      cases depth with
      | zero => cases read
      | succ depth =>
          obtain ⟨values, readAll, named⟩ := Option.bind_eq_some_iff.mp read
          rw [depth_tagged? named, Yaml.depth]
          exact Nat.succ_le_succ (depth_ofNodes readAll)
  | map tag pairs =>
      cases depth with
      | zero => cases read
      | succ depth =>
          obtain ⟨values, readAll, named⟩ := Option.bind_eq_some_iff.mp read
          rw [depth_tagged? named, Yaml.depth]
          have noPairs : depthOfPairs [] ≤ depth := Nat.zero_le depth
          exact Nat.succ_le_succ (depth_ofPairs noPairs readAll)

theorem depth_ofNodes {depth : Nat} {nodes : List Node} {values : List Yaml}
    (read : ofNodes depth nodes = some values) : depthOfItems values ≤ depth := by
  cases nodes with
  | nil =>
      cases read
      exact Nat.zero_le depth
  | cons node rest =>
      obtain ⟨first, readFirst, others⟩ := Option.bind_eq_some_iff.mp read
      obtain ⟨more, readMore, same⟩ := Option.bind_eq_some_iff.mp others
      cases same
      exact Nat.max_le.mpr ⟨depth_ofNode readFirst, depth_ofNodes readMore⟩

theorem depth_ofPairs {depth : Nat} {before values : List (Yaml × Yaml)}
    {nodes : List (Node × Node)} (known : depthOfPairs before ≤ depth)
    (read : ofPairs depth before nodes = some values) : depthOfPairs values ≤ depth := by
  cases nodes with
  | nil =>
      cases read
      exact known
  | cons pair rest =>
      obtain ⟨keyNode, valueNode⟩ := pair
      obtain ⟨key, readKey, others⟩ := Option.bind_eq_some_iff.mp read
      obtain ⟨value, readValue, others⟩ := Option.bind_eq_some_iff.mp others
      obtain ⟨grown, added, readOn⟩ := Option.bind_eq_some_iff.mp others
      refine depth_ofPairs ?_ readOn
      unfold addPair at added
      split at added
      · cases added
      · cases added
        have own := And.intro (depth_ofNode readKey) (depth_ofNode readValue)
        exact depthOfPairs_le_iff.mpr (List.forall_mem_append.mpr
          ⟨depthOfPairs_le_iff.mp known, List.forall_mem_singleton.mpr own⟩)

end

/-- No text is read as a value that is nested deeper than the limit. -/
theorem depth_ofText? {text : String} {value : Yaml} (read : ofText? text = some value) :
    value.depth ≤ depthLimit := by
  obtain ⟨node, _, readNode⟩ := Option.bind_eq_some_iff.mp read
  exact depth_ofNode readNode

/-! ## Faithful writers -/

/-- What is written of a value that can be read at all is read as the value again. -/
def Faithful (write : Yaml → Option String) : Prop :=
  ∀ value text, value.depth ≤ depthLimit → write value = some text → ofText? text = some value

/-- The bytes of a text that is read as a value. -/
def Spells (value : Yaml) (content : List UInt8) : Prop :=
  ∃ text, Utf8.decode content = .ok text ∧ ofText? text = some value

theorem Faithful.spells {write : Yaml → Option String} (faithful : Faithful write) {value : Yaml}
    {text : String} (shallow : value.depth ≤ depthLimit) (written : write value = some text) :
    value.Spells (Utf8.encode text) :=
  ⟨text, Utf8.decode_encode text, faithful value text shallow written⟩

/-! ## Values that are the same -/

mutual

theorem eq_of_same {a b : Yaml} (alike : same a b = true) : a = b := by
  cases a <;> cases b <;> simp only [same, beq_iff_eq, Bool.and_eq_true, Bool.false_eq_true]
    at alike
  case null.null => rfl
  case seq.seq => exact congrArg seq (eq_of_sameItems alike)
  case map.map => exact congrArg map (eq_of_samePairs alike)
  case tagged.tagged => rw [alike.1, eq_of_same alike.2]
  all_goals exact congrArg _ alike

theorem eq_of_sameItems {as bs : List Yaml} (alike : sameItems as bs = true) : as = bs := by
  cases as <;> cases bs <;> simp only [sameItems, Bool.and_eq_true, Bool.false_eq_true] at alike
  case nil.nil => rfl
  case cons.cons => rw [eq_of_same alike.1, eq_of_sameItems alike.2]

theorem eq_of_samePairs {as bs : List (Yaml × Yaml)} (alike : samePairs as bs = true) :
    as = bs := by
  cases as with
  | nil =>
      cases bs with
      | nil => rfl
      | cons => simp [samePairs] at alike
  | cons a as =>
      cases bs with
      | nil => simp [samePairs] at alike
      | cons b bs =>
          simp only [samePairs, Bool.and_eq_true] at alike
          obtain ⟨⟨keys, values⟩, others⟩ := alike
          rw [Prod.ext (eq_of_same keys) (eq_of_same values), eq_of_samePairs others]

end

end Yaml

/-- Rehearsals write no text that is not read as the value again. -/
theorem Rehearsal.faithful_yamlText : Yaml.Faithful yamlText := by
  intro value text _ written
  unfold yamlText at written
  dsimp only at written
  split at written
  · next same =>
      cases written
      cases read : Yaml.ofText? (String.ofList ((block value).flatMap fun line => line ++ ['\n'])) with
      | none =>
          rw [read] at same
          cases same
      | some found =>
          rw [read] at same
          rw [Yaml.eq_of_same same]
  · cases written

example : Rehearsal.yamlText (.map [(.str "spec", .map [(.str "tasks", .seq [.map [(.str "taskRef",
    .map [(.str "name", .str "s2i-java"), (.str "bundle", .str "repo:tag")])]])])]) =
      some ("spec:\n  tasks:\n  - taskRef:\n      name: s2i-java\n      bundle: repo:tag\n") := by
  decide +kernel

end ClusterHarness
