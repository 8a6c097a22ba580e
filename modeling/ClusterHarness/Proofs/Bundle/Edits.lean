import ClusterHarness.Bundle.Edit
import ClusterHarness.Proofs.Yaml.Writing
import Mathlib.Data.List.Forall2

/-!
# What the edits of bundles change

Each edit changes values under known keys and nothing around them, tags, order and other keys
included.  So what an edited object says elsewhere is what it said before, and what was edited says
what it should.
-/

namespace ClusterHarness

namespace Yaml

/-! ## Changes in place -/

/-- A mapping, perhaps under tags, in which only the value of a key has changed, and that in some
way.  The first pair with the key counts. -/
inductive ChangedAt (key : String) (R : Yaml → Yaml → Prop) : Yaml → Yaml → Prop where
  | map {before after : List (Yaml × Yaml)} {old new : Yaml}
      (first : ∀ pair ∈ before, pair.1 ≠ .str key) (changed : R old new) :
      ChangedAt key R (.map (before ++ (.str key, old) :: after))
        (.map (before ++ (.str key, new) :: after))
  | tagged {tag : String} {value value' : Yaml} (inner : ChangedAt key R value value') :
      ChangedAt key R (.tagged tag value) (.tagged tag value')

/-- A mapping, perhaps under tags, in which a key has been given a value: in its place or, if it
was not there, at the end. -/
inductive SetTo (key : String) (new : Yaml) : Yaml → Yaml → Prop where
  | replaced {before after : List (Yaml × Yaml)} {old : Yaml}
      (first : ∀ pair ∈ before, pair.1 ≠ .str key) :
      SetTo key new (.map (before ++ (.str key, old) :: after))
        (.map (before ++ (.str key, new) :: after))
  | added {pairs : List (Yaml × Yaml)} (absent : ∀ pair ∈ pairs, pair.1 ≠ .str key) :
      SetTo key new (.map pairs) (.map (pairs ++ [(.str key, new)]))
  | tagged {tag : String} {value value' : Yaml} (inner : SetTo key new value value') :
      SetTo key new (.tagged tag value) (.tagged tag value')

/-- A sequence, perhaps under tags, each item of which has changed in some way. -/
inductive ItemsChanged (R : Yaml → Yaml → Prop) : Yaml → Yaml → Prop where
  | seq {items items' : List Yaml} (each : List.Forall₂ R items items') :
      ItemsChanged R (.seq items) (.seq items')
  | tagged {tag : String} {value value' : Yaml} (inner : ItemsChanged R value value') :
      ItemsChanged R (.tagged tag value) (.tagged tag value')

/-! ## Keys -/

theorem beq_str_iff {k : Yaml} {key : String} : (k == .str key) = true ↔ k = .str key := by
  change same k (.str key) = true ↔ k = .str key
  cases k <;> simp [same]

theorem beq_str_eq_false {k : Yaml} {key : String} : (k == .str key) = false ↔ k ≠ .str key := by
  rw [← Bool.not_eq_true, beq_str_iff]

/-- The pairs up to the first one with a key. -/
theorem get?_map_eq_some {pairs : List (Yaml × Yaml)} {key : String} {value : Yaml} :
    (map pairs).get? key = some value ↔ ∃ before after,
      pairs = before ++ (.str key, value) :: after ∧ ∀ pair ∈ before, pair.1 ≠ .str key := by
  have unfolded : (map pairs).get? key = (pairs.find? (·.1 == .str key)).map (·.2) := rfl
  rw [unfolded, Option.map_eq_some_iff]
  constructor
  · rintro ⟨⟨k, _⟩, found, rfl⟩
    obtain ⟨same, before, after, rfl, first⟩ := List.find?_eq_some_iff_append.mp found
    cases beq_str_iff.mp same
    exact ⟨before, after, rfl, fun pair member =>
      beq_str_eq_false.mp (by simpa using first pair member)⟩
  · rintro ⟨before, after, rfl, first⟩
    refine ⟨(.str key, value), List.find?_eq_some_iff_append.mpr ⟨beq_str_iff.mpr rfl, before,
      after, rfl, fun pair member => ?_⟩, rfl⟩
    simpa using beq_str_eq_false.mpr (first pair member)

theorem get?_map_eq_none {pairs : List (Yaml × Yaml)} {key : String} :
    (map pairs).get? key = none ↔ ∀ pair ∈ pairs, pair.1 ≠ .str key := by
  have unfolded : (map pairs).get? key = (pairs.find? (·.1 == .str key)).map (·.2) := rfl
  simp [unfolded, beq_str_eq_false]

/-! ## Setting a key -/

theorem setPair_append {key : String} {before : List (Yaml × Yaml)} {old : Yaml}
    (first : ∀ pair ∈ before, pair.1 ≠ .str key) (after : List (Yaml × Yaml)) (new : Yaml) :
    setPair key new (before ++ (.str key, old) :: after) = before ++ (.str key, new) :: after := by
  induction before with
  | nil => exact if_pos (beq_str_iff.mpr rfl)
  | cons pair before ih =>
      have other := first pair List.mem_cons_self
      rw [List.cons_append, setPair, beq_str_eq_false.mpr other]
      exact congrArg (pair :: ·) (ih fun p member => first p (List.mem_cons_of_mem _ member))

theorem setPair_of_absent {key : String} {pairs : List (Yaml × Yaml)}
    (absent : ∀ pair ∈ pairs, pair.1 ≠ .str key) (new : Yaml) :
    setPair key new pairs = pairs ++ [(.str key, new)] := by
  induction pairs with
  | nil => rfl
  | cons pair pairs ih =>
      have other := absent pair List.mem_cons_self
      rw [setPair, beq_str_eq_false.mpr other]
      exact congrArg (pair :: ·) (ih fun p member => absent p (List.mem_cons_of_mem _ member))

/-- What has some key is a mapping under tags, so any key of it can be set. -/
theorem setTo_set {value found : Yaml} {key other : String} (got : value.get? other = some found)
    (new : Yaml) : SetTo key new value (value.set key new) := by
  induction value using untagged.induct with
  | case1 tag value ih => exact .tagged (ih got)
  | case2 value notTagged =>
      cases value with
      | map pairs =>
          cases present : (map pairs).get? key with
          | some old =>
              obtain ⟨before, after, rfl, first⟩ := get?_map_eq_some.mp present
              rw [set, setPair_append first]
              exact .replaced first
          | none =>
              have absent := get?_map_eq_none.mp present
              rw [set, setPair_of_absent absent]
              exact .added absent
      | tagged tag value => exact absurd rfl (notTagged tag value)
      | _ => cases got

/-- Setting a key that is there changes what it has. -/
theorem changedAt_set {value old new : Yaml} {key : String} {R : Yaml → Yaml → Prop}
    (got : value.get? key = some old) (changed : R old new) :
    ChangedAt key R value (value.set key new) := by
  induction value using untagged.induct with
  | case1 tag value ih => exact .tagged (ih got)
  | case2 value notTagged =>
      cases value with
      | map pairs =>
          obtain ⟨before, after, rfl, first⟩ := get?_map_eq_some.mp got
          rw [set, setPair_append first]
          exact .map first changed
      | tagged tag value => exact absurd rfl (notTagged tag value)
      | _ => cases got

theorem changedAt_alter {value old : Yaml} {key : String} {R : Yaml → Yaml → Prop}
    {f : Yaml → Yaml} (got : value.get? key = some old) (changed : R old (f old)) :
    ChangedAt key R value (value.alter key f) := by
  unfold alter
  rw [got]
  exact changedAt_set got changed

theorem itemsChanged_mapItems {value : Yaml} {items : List Yaml} {R : Yaml → Yaml → Prop}
    {f : Yaml → Yaml} (got : value.items? = some items)
    (changed : ∀ item ∈ items, R item (f item)) :
    ItemsChanged R value (value.mapItems f) := by
  induction value using untagged.induct with
  | case1 tag value ih => exact .tagged (ih got)
  | case2 value notTagged =>
      cases value with
      | seq items' =>
          cases got
          rw [mapItems]
          exact .seq (List.forall₂_map_right_iff.mpr (List.forall₂_same.mpr changed))
      | tagged tag value => exact absurd rfl (notTagged tag value)
      | _ => cases got

/-! ## What a changed value says -/

theorem ChangedAt.get? {key : String} {R : Yaml → Yaml → Prop} {value value' : Yaml}
    (changed : ChangedAt key R value value') :
    ∃ old new, value.get? key = some old ∧ value'.get? key = some new ∧ R old new := by
  induction changed with
  | map first changed =>
      exact ⟨_, _, get?_map_eq_some.mpr ⟨_, _, rfl, first⟩,
        get?_map_eq_some.mpr ⟨_, _, rfl, first⟩, changed⟩
  | tagged _ ih => exact ih

theorem SetTo.get? {key : String} {new value value' : Yaml} (setTo : SetTo key new value value') :
    value'.get? key = some new := by
  induction setTo with
  | replaced first => exact get?_map_eq_some.mpr ⟨_, _, rfl, first⟩
  | added absent => exact get?_map_eq_some.mpr ⟨_, [], rfl, absent⟩
  | tagged _ ih => exact ih

theorem ItemsChanged.items? {R : Yaml → Yaml → Prop} {value value' : Yaml}
    (changed : ItemsChanged R value value') :
    ∃ items items', value.items? = some items ∧ value'.items? = some items' ∧
      List.Forall₂ R items items' := by
  induction changed with
  | seq each => exact ⟨_, _, rfl, rfl, each⟩
  | tagged _ ih => exact ih

/-! ## How deep a changed value is nested -/

/-- A pair among others can be exchanged for one that is nested no deeper. -/
theorem depthOfPairs_exchange {before after : List (Yaml × Yaml)} {key old new : Yaml}
    (less : new.depth ≤ old.depth) :
    depthOfPairs (before ++ (key, new) :: after) ≤ depthOfPairs (before ++ (key, old) :: after) := by
  have bounds := List.forall_mem_append.mp (depthOfPairs_le_iff.mp
    (Nat.le_refl (depthOfPairs (before ++ (key, old) :: after))))
  obtain ⟨own, others⟩ := List.forall_mem_cons.mp bounds.2
  exact depthOfPairs_le_iff.mpr (List.forall_mem_append.mpr
    ⟨bounds.1, List.forall_mem_cons.mpr ⟨⟨own.1, Nat.le_trans less own.2⟩, others⟩⟩)

theorem ChangedAt.depth_le {key : String} {R : Yaml → Yaml → Prop} {value value' : Yaml}
    (changed : ChangedAt key R value value') (less : ∀ old new, R old new → new.depth ≤ old.depth) :
    value'.depth ≤ value.depth := by
  induction changed with
  | map _ changed => exact Nat.succ_le_succ (depthOfPairs_exchange (less _ _ changed))
  | tagged _ ih => exact ih

theorem SetTo.depth_le {key text : String} {value value' : Yaml}
    (setTo : SetTo key (.str text) value value') : value'.depth ≤ value.depth := by
  induction setTo with
  | replaced => exact Nat.succ_le_succ (depthOfPairs_exchange (Nat.zero_le _))
  | added =>
      have added : depthOfPairs [(str key, str text)] = 0 := rfl
      refine Nat.succ_le_succ (depthOfPairs_le_iff.mpr (List.forall_mem_append.mpr
        ⟨depthOfPairs_le_iff.mp (Nat.le_refl _), ?_⟩))
      exact depthOfPairs_le_iff.mp (added ▸ Nat.zero_le _)
  | tagged _ ih => exact ih

theorem ItemsChanged.depth_le {R : Yaml → Yaml → Prop} {value value' : Yaml}
    (changed : ItemsChanged R value value') (less : ∀ old new, R old new → new.depth ≤ old.depth) :
    value'.depth ≤ value.depth := by
  induction changed with
  | seq each =>
      refine Nat.succ_le_succ ?_
      induction each with
      | nil => exact Nat.le_refl _
      | cons changed _ ih =>
          have own := less _ _ changed
          rw [depthOfItems, depthOfItems]
          omega
  | tagged _ ih => exact ih

/-! ## Where a value is found -/

/-- A mapping, perhaps under tags, that has a value at a key.  The first pair with the key counts. -/
inductive HasAt (key : String) (found : Yaml) : Yaml → Prop where
  | map {before after : List (Yaml × Yaml)} (first : ∀ pair ∈ before, pair.1 ≠ .str key) :
      HasAt key found (.map (before ++ (.str key, found) :: after))
  | tagged {tag : String} {value : Yaml} (inner : HasAt key found value) :
      HasAt key found (.tagged tag value)

/-- A sequence, perhaps under tags. -/
inductive Lists (items : List Yaml) : Yaml → Prop where
  | seq : Lists items (.seq items)
  | tagged {tag : String} {value : Yaml} (inner : Lists items value) :
      Lists items (.tagged tag value)

theorem get?_eq_some_iff {value found : Yaml} {key : String} :
    value.get? key = some found ↔ HasAt key found value := by
  constructor
  · intro got
    induction value using untagged.induct with
    | case1 tag value ih => exact .tagged (ih got)
    | case2 value notTagged =>
        cases value with
        | map pairs =>
            obtain ⟨before, after, rfl, first⟩ := get?_map_eq_some.mp got
            exact .map first
        | tagged tag value => exact absurd rfl (notTagged tag value)
        | _ => cases got
  · intro has
    induction has with
    | map first => exact get?_map_eq_some.mpr ⟨_, _, rfl, first⟩
    | tagged _ ih => exact ih

theorem items?_eq_some_iff {value : Yaml} {items : List Yaml} :
    value.items? = some items ↔ Lists items value := by
  constructor
  · intro got
    induction value using untagged.induct with
    | case1 tag value ih => exact .tagged (ih got)
    | case2 value notTagged =>
        cases value with
        | seq => cases got; exact .seq
        | tagged tag value => exact absurd rfl (notTagged tag value)
        | _ => cases got
  · intro lists
    induction lists with
    | seq => rfl
    | tagged _ ih => exact ih

end Yaml

namespace Bundle

/-! ## Entries of a specification -/

/-- There are entries exactly if the object has a specification, and that a sequence there. -/
theorem entries?_eq_some_iff {field : String} {object : Yaml} {entries : List Yaml} :
    entries? field object = some entries ↔
      ∃ spec list, Yaml.HasAt "spec" spec object ∧ Yaml.HasAt field list spec ∧
        Yaml.Lists entries list := by
  unfold entries?
  simp only [Option.bind_eq_some_iff, Yaml.get?_eq_some_iff, Yaml.items?_eq_some_iff]
  constructor
  · rintro ⟨list, ⟨spec, hasSpec, hasList⟩, lists⟩
    exact ⟨spec, list, hasSpec, hasList, lists⟩
  · rintro ⟨spec, list, hasSpec, hasList, lists⟩
    exact ⟨list, ⟨spec, hasSpec, hasList⟩, lists⟩

/-- An object in whose specification the entries of a sequence have changed in some way, and
nothing else. -/
def EntriesChanged (field : String) (R : Yaml → Yaml → Prop) : Yaml → Yaml → Prop :=
  Yaml.ChangedAt "spec" (Yaml.ChangedAt field (Yaml.ItemsChanged R))

theorem EntriesChanged.entries? {field : String} {R : Yaml → Yaml → Prop} {object object' : Yaml}
    (changed : EntriesChanged field R object object') :
    ∃ entries entries', entries? field object = some entries ∧
      entries? field object' = some entries' ∧ List.Forall₂ R entries entries' := by
  obtain ⟨spec, spec', gotSpec, gotSpec', inSpec⟩ := changed.get?
  obtain ⟨list, list', got, got', inList⟩ := inSpec.get?
  obtain ⟨entries, entries', items, items', each⟩ := inList.items?
  refine ⟨entries, entries', ?_, ?_, each⟩
  · rw [Bundle.entries?, gotSpec, Option.bind_some, got, Option.bind_some, items]
  · rw [Bundle.entries?, gotSpec', Option.bind_some, got', Option.bind_some, items']

theorem entriesChanged_mapEntries {field : String} {R : Yaml → Yaml → Prop} {f : Yaml → Yaml}
    {object : Yaml} {entries : List Yaml} (listed : entries? field object = some entries)
    (changed : ∀ entry ∈ entries, R entry (f entry)) :
    EntriesChanged field R object (mapEntries field f object) := by
  obtain ⟨list, gotList, items⟩ := Option.bind_eq_some_iff.mp listed
  obtain ⟨spec, gotSpec, got⟩ := Option.bind_eq_some_iff.mp gotList
  exact Yaml.changedAt_alter gotSpec
    (Yaml.changedAt_alter got (Yaml.itemsChanged_mapItems items changed))

theorem EntriesChanged.depth_le {field : String} {R : Yaml → Yaml → Prop} {object object' : Yaml}
    (changed : EntriesChanged field R object object')
    (less : ∀ entry entry', R entry entry' → entry'.depth ≤ entry.depth) :
    object'.depth ≤ object.depth :=
  Yaml.ChangedAt.depth_le changed fun _ _ inSpec =>
    inSpec.depth_le fun _ _ inList => inList.depth_le less

/-! ## Retargeting a task -/

/-- An entry that refers to a task refers to it in a bundle now, and is the same otherwise; any
other entry is the same. -/
def EntryRetargeted (task bundle : String) (entry entry' : Yaml) : Prop :=
  if (reference? task entry).isSome then
    Yaml.ChangedAt "taskRef" (Yaml.SetTo "bundle" (.str bundle)) entry entry'
  else entry' = entry

/-- Every entry that refers to a task refers to it in this bundle. -/
def PointsTo (task bundle : String) (pipeline : Yaml) : Prop :=
  ∃ entries, entries? "tasks" pipeline = some entries ∧
    ∀ entry ∈ entries, ∀ reference, reference? task entry = some reference →
      bundleOf? reference = some bundle

/-- Some entry refers to a task in this bundle. -/
def Mentions (task bundle : String) (pipeline : Yaml) : Prop :=
  ∃ entries, entries? "tasks" pipeline = some entries ∧
    ∃ entry ∈ entries, ∃ reference, reference? task entry = some reference ∧
      bundleOf? reference = some bundle

theorem reference?_eq_some {task : String} {entry reference : Yaml} :
    reference? task entry = some reference ↔
      entry.get? "taskRef" = some reference ∧ hasName task reference = true := by
  simp [reference?, Option.filter_eq_some_iff]

theorem exists_get?_of_hasName {name : String} {value : Yaml} (named : hasName name value = true) :
    ∃ found, value.get? "name" = some found := by
  cases got : value.get? "name" with
  | some found => exact ⟨found, rfl⟩
  | none =>
      rw [hasName, got] at named
      cases named

theorem entryRetargeted_retargetEntry (task bundle : String) (entry : Yaml) :
    EntryRetargeted task bundle entry (retargetEntry task bundle entry) := by
  unfold EntryRetargeted retargetEntry
  cases referred : reference? task entry with
  | none => rfl
  | some reference =>
      obtain ⟨got, named⟩ := reference?_eq_some.mp referred
      obtain ⟨_, gotName⟩ := exists_get?_of_hasName named
      exact Yaml.changedAt_set got (Yaml.setTo_set gotName (.str bundle))

theorem EntryRetargeted.depth_le {task bundle : String} {entry entry' : Yaml}
    (retargeted : EntryRetargeted task bundle entry entry') : entry'.depth ≤ entry.depth := by
  unfold EntryRetargeted at retargeted
  split at retargeted
  · exact retargeted.depth_le fun _ _ setTo => setTo.depth_le
  · exact Nat.le_of_eq (congrArg Yaml.depth retargeted)

/-- A retargeted entry refers to the task in no other bundle. -/
theorem EntryRetargeted.bundleOf? {task bundle : String} {entry entry' reference : Yaml}
    (retargeted : EntryRetargeted task bundle entry entry')
    (refers : reference? task entry' = some reference) : bundleOf? reference = some bundle := by
  unfold EntryRetargeted at retargeted
  split at retargeted
  · obtain ⟨_, reference', _, got', setTo⟩ := retargeted.get?
    obtain ⟨got, _⟩ := reference?_eq_some.mp refers
    cases got.symm.trans got'
    rw [Bundle.bundleOf?, setTo.get?]
    rfl
  · next absent =>
      rw [retargeted] at refers
      exact absurd (refers ▸ rfl) absent

/-- The bundle that is found is one that some entry refers to. -/
theorem mentions_of_lastBundle? {task bundle : String} {pipeline : Yaml} {entries : List Yaml}
    (listed : entries? "tasks" pipeline = some entries)
    (last : lastBundle? task entries = some bundle) : Mentions task bundle pipeline := by
  obtain ⟨reference, found, bundled⟩ := Option.bind_eq_some_iff.mp last
  obtain ⟨entry, member, refers⟩ := List.mem_filterMap.mp (List.mem_of_getLast? found)
  exact ⟨entries, listed, entry, member, reference, refers, bundled⟩

theorem exists_of_mem_right {R : Yaml → Yaml → Prop} {items items' : List Yaml}
    (each : List.Forall₂ R items items') {item' : Yaml} (member : item' ∈ items') :
    ∃ item, R item item' := by
  induction each with
  | nil => cases member
  | cons changed _ ih =>
      rcases List.mem_cons.mp member with rfl | further
      · exact ⟨_, changed⟩
      · exact ih further

/-- What has been retargeted has entries, all of which were visited, and the last reference to the
task had a bundle. -/
theorem exists_listed_of_retargeted {task bundle previous : String} {pipeline pipeline' : Yaml}
    (edited : retargetTask task bundle pipeline = (.ok previous, pipeline')) :
    ∃ entries, entries? "tasks" pipeline = some entries ∧
      lastBundle? task entries = some previous ∧
      pipeline' = mapEntries "tasks" (retargetEntry task bundle) pipeline := by
  unfold retargetTask at edited
  cases listed : entries? "tasks" pipeline with
  | none =>
      rw [listed] at edited
      cases edited
  | some entries =>
      rw [listed] at edited
      dsimp only at edited
      cases last : lastBundle? task entries with
      | none =>
          rw [last] at edited
          cases edited
      | some found =>
          rw [last] at edited
          cases edited
          exact ⟨entries, rfl, last, rfl⟩

/-- Retargeting points all references to the task at the bundle and changes nothing else; the
bundle it finds is one that was referred to. -/
theorem retargetTask_eq_ok {task bundle previous : String} {pipeline pipeline' : Yaml}
    (edited : retargetTask task bundle pipeline = (.ok previous, pipeline')) :
    EntriesChanged "tasks" (EntryRetargeted task bundle) pipeline pipeline' ∧
      PointsTo task bundle pipeline' ∧ Mentions task previous pipeline := by
  obtain ⟨entries, listed, last, rfl⟩ := exists_listed_of_retargeted edited
  have changed : EntriesChanged "tasks" (EntryRetargeted task bundle) pipeline
      (mapEntries "tasks" (retargetEntry task bundle) pipeline) :=
    entriesChanged_mapEntries listed fun entry _ => entryRetargeted_retargetEntry task bundle entry
  refine ⟨changed, ?_, mentions_of_lastBundle? listed last⟩
  obtain ⟨_, entries', _, listed', each⟩ := changed.entries?
  refine ⟨entries', listed', fun entry' member' reference refers => ?_⟩
  obtain ⟨entry, retargeted⟩ := exists_of_mem_right each member'
  exact retargeted.bundleOf? refers

/-! ## Replacing a step's image -/

/-- A step of some name has this image now and is the same otherwise; any other step is the same. -/
def StepReplaced (step image : String) (entry entry' : Yaml) : Prop :=
  if hasName step entry then Yaml.SetTo "image" (.str image) entry entry' else entry' = entry

/-- What has been replaced was replaced in all steps of the name, of which there is one. -/
theorem exists_listed_of_replaced {step image : String} {task task' : Yaml}
    (edited : replaceStepImage step image task = (.ok (), task')) :
    ∃ entries, entries? "steps" task = some entries ∧ entries.any (hasName step) = true ∧
      task' = mapEntries "steps" (replaceImage step image) task := by
  unfold replaceStepImage at edited
  cases listed : entries? "steps" task with
  | none =>
      rw [listed] at edited
      cases edited
  | some entries =>
      rw [listed] at edited
      dsimp only at edited
      split at edited
      · next named =>
          cases edited
          exact ⟨entries, rfl, named, rfl⟩
      · cases edited

theorem stepReplaced_replaceImage (step image : String) (entry : Yaml) :
    StepReplaced step image entry (replaceImage step image entry) := by
  unfold StepReplaced replaceImage
  split
  · next named =>
      obtain ⟨_, got⟩ := exists_get?_of_hasName named
      exact Yaml.setTo_set got (.str image)
  · rfl

theorem StepReplaced.depth_le {step image : String} {entry entry' : Yaml}
    (replaced : StepReplaced step image entry entry') : entry'.depth ≤ entry.depth := by
  unfold StepReplaced at replaced
  split at replaced
  · exact replaced.depth_le
  · exact Nat.le_of_eq (congrArg Yaml.depth replaced)

/-- Replacing gives every step of the name the image, of which there is one, and changes nothing
else. -/
theorem replaceStepImage_eq_ok {step image : String} {task task' : Yaml}
    (edited : replaceStepImage step image task = (.ok (), task')) :
    EntriesChanged "steps" (StepReplaced step image) task task' ∧
      ∃ entries, entries? "steps" task = some entries ∧
        ∃ entry ∈ entries, hasName step entry = true := by
  obtain ⟨entries, listed, named, rfl⟩ := exists_listed_of_replaced edited
  exact ⟨entriesChanged_mapEntries listed fun entry _ => stepReplaced_replaceImage step image entry,
    entries, listed, List.any_eq_true.mp named⟩

end Bundle

end ClusterHarness
