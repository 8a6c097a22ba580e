import ClusterHarness.Proofs.Bundle.Edits

/-!
# When retargeting a task is safe

Retargeting writes to every reference to the task and then judges by the last of them alone.  So if
that one has no bundle it fails although an earlier one may have had one, and the references have
been changed by then.
-/

namespace ClusterHarness

namespace Yaml

/-! ## Changes that are none -/

theorem ChangedAt.eq {key : String} {R : Yaml → Yaml → Prop} {value value' : Yaml}
    (changed : ChangedAt key R value value') (same : ∀ old new, R old new → new = old) :
    value' = value := by
  induction changed with
  | map _ changed => rw [same _ _ changed]
  | tagged _ ih => rw [ih]

theorem ItemsChanged.eq {R : Yaml → Yaml → Prop} {value value' : Yaml}
    (changed : ItemsChanged R value value') (same : ∀ item item', R item item' → item' = item) :
    value' = value := by
  induction changed with
  | seq each =>
      have items := List.forall₂_eq_eq_eq ▸ each.flip.imp fun item' item => same item item'
      rw [items]
  | tagged _ ih => rw [ih]

end Yaml

namespace Bundle

theorem EntriesChanged.eq {field : String} {R : Yaml → Yaml → Prop} {object object' : Yaml}
    (changed : EntriesChanged field R object object')
    (same : ∀ entry entry', R entry entry' → entry' = entry) : object' = object :=
  Yaml.ChangedAt.eq changed fun _ _ inSpec =>
    Yaml.ChangedAt.eq inSpec fun _ _ inList => Yaml.ItemsChanged.eq inList same

/-- Changing no entry changes nothing. -/
theorem mapEntries_eq_self {field : String} {f : Yaml → Yaml} {object : Yaml}
    {entries : List Yaml} (listed : entries? field object = some entries)
    (same : ∀ entry ∈ entries, f entry = entry) : mapEntries field f object = object :=
  EntriesChanged.eq (entriesChanged_mapEntries (R := fun entry entry' => entry' = entry) listed same)
    fun _ _ => id

/-! ## Retargeting a task -/

/-- Retargeting fails only if no entry refers to the task in a bundle, and then changes nothing; a
bundle that it finds is one that some entry referred to. -/
structure RetargetsSafely (task bundle : String) (pipeline : Yaml) : Prop where
  fails_iff : (∃ fault, (retargetTask task bundle pipeline).1 = .error fault) ↔
    ¬ ∃ previous, Mentions task previous pipeline
  unchanged : ∀ fault, (retargetTask task bundle pipeline).1 = .error fault →
    (retargetTask task bundle pipeline).2 = pipeline
  found : ∀ previous, (retargetTask task bundle pipeline).1 = .ok previous →
    Mentions task previous pipeline

/-- The last reference to the task, if there is one, has a bundle. -/
def LastHasBundle (task : String) (entries : List Yaml) : Prop :=
  ∀ reference, (entries.filterMap (reference? task)).getLast? = some reference →
    ∃ previous, bundleOf? reference = some previous

variable {task bundle : String} {pipeline : Yaml} {entries : List Yaml}

theorem retargetTask_of_last {previous : String} (bundle : String)
    (listed : entries? "tasks" pipeline = some entries)
    (last : lastBundle? task entries = some previous) :
    retargetTask task bundle pipeline =
      (.ok previous, mapEntries "tasks" (retargetEntry task bundle) pipeline) := by
  unfold retargetTask
  rw [listed]
  dsimp only
  rw [last]

theorem retargetTask_of_no_last (bundle : String)
    (listed : entries? "tasks" pipeline = some entries)
    (last : lastBundle? task entries = none) :
    retargetTask task bundle pipeline =
      (.error (.noReference task), mapEntries "tasks" (retargetEntry task bundle) pipeline) := by
  unfold retargetTask
  rw [listed]
  dsimp only
  rw [last]

/-- If retargeting changes nothing, all references to the task were to the bundle before. -/
theorem bundleOf?_of_unchanged (listed : entries? "tasks" pipeline = some entries)
    (same : mapEntries "tasks" (retargetEntry task bundle) pipeline = pipeline) {entry : Yaml}
    (member : entry ∈ entries) {reference : Yaml}
    (refers : reference? task entry = some reference) : bundleOf? reference = some bundle := by
  have changed : EntriesChanged "tasks" (EntryRetargeted task bundle) pipeline
      (mapEntries "tasks" (retargetEntry task bundle) pipeline) :=
    entriesChanged_mapEntries listed fun entry _ => entryRetargeted_retargetEntry task bundle entry
  rw [same] at changed
  obtain ⟨before, after, listed', listed'', each⟩ := changed.entries?
  cases listed.symm.trans listed'
  cases listed.symm.trans listed''
  exact (List.forall₂_same.mp each entry member).bundleOf? refers

/-- Without a reference to the task nothing is retargeted. -/
theorem retargetEntry_eq_self {entry : Yaml} (absent : reference? task entry = none) :
    retargetEntry task bundle entry = entry := by
  rw [retargetEntry, absent]

/-- Retargeting a task is safe exactly if the last reference to it, if there is one, has a bundle. -/
theorem retargetsSafely_iff (task bundle : String)
    (listed : entries? "tasks" pipeline = some entries) :
    RetargetsSafely task bundle pipeline ↔ LastHasBundle task entries := by
  constructor
  · intro safe reference last
    cases bundled : bundleOf? reference with
    | some previous => exact ⟨previous, rfl⟩
    | none =>
        have without : lastBundle? task entries = none := by
          rw [lastBundle?, last, Option.bind_some, bundled]
        have failed := retargetTask_of_no_last bundle listed without
        have same := safe.unchanged _ (congrArg Prod.fst failed)
        rw [failed] at same
        obtain ⟨entry, member, refers⟩ := List.mem_filterMap.mp (List.mem_of_getLast? last)
        cases bundled.symm.trans (bundleOf?_of_unchanged listed same member refers)
  · intro bundled
    cases last : (entries.filterMap (reference? task)).getLast? with
    | some reference =>
        obtain ⟨previous, carries⟩ := bundled reference last
        have found : lastBundle? task entries = some previous := by
          rw [lastBundle?, last, Option.bind_some, carries]
        have mentions := mentions_of_lastBundle? listed found
        have edited := retargetTask_of_last bundle listed found
        constructor
        · rw [edited]
          exact iff_of_false nofun fun none => none ⟨previous, mentions⟩
        · rw [edited]
          nofun
        · rw [edited]
          intro other same
          cases same
          exact mentions
    | none =>
        have absent : ∀ entry ∈ entries, reference? task entry = none :=
          List.filterMap_eq_nil_iff.mp (List.getLast?_eq_none_iff.mp last)
        have without : lastBundle? task entries = none := by
          rw [lastBundle?, last]
          rfl
        have failed := retargetTask_of_no_last bundle listed without
        constructor
        · rw [failed]
          refine iff_of_true ⟨_, rfl⟩ ?_
          rintro ⟨_, others, listed', entry, member, reference, refers, _⟩
          cases listed.symm.trans listed'
          cases (absent entry member).symm.trans refers
        · rw [failed]
          intro _ _
          exact mapEntries_eq_self listed fun entry member =>
            retargetEntry_eq_self (absent entry member)
        · rw [failed]
          nofun

/-- A pipeline with a reference to the task `build` for each of these, which may have a bundle. -/
def buildPipeline (bundles : List (Option String)) : Yaml :=
  .map [(.str "spec", .map [(.str "tasks", .seq (bundles.map fun bundle =>
    .map [(.str "taskRef", .map ((.str "name", .str "build") ::
      (bundle.map fun b => (.str "bundle", .str b)).toList))]))])]

/-- A first reference without a bundle does no harm. -/
theorem retargetsSafely_of_last :
    ∃ entries, entries? "tasks" (buildPipeline [none, some "old"]) = some entries ∧
      LastHasBundle "build" entries ∧
      RetargetsSafely "build" "new" (buildPipeline [none, some "old"]) := by
  have last : LastHasBundle "build"
      ((entries? "tasks" (buildPipeline [none, some "old"])).getD []) := by
    intro reference same
    cases same
    exact ⟨"old", rfl⟩
  exact ⟨_, rfl, last, (retargetsSafely_iff "build" "new" rfl).mpr last⟩

/-- If the last reference has no bundle, retargeting fails although the first one has one. -/
theorem not_retargetsSafely_of_first :
    retargetTask "build" "new" (buildPipeline [some "old", none]) =
        (.error (.noReference "build"), buildPipeline [some "new", some "new"]) ∧
      ¬ RetargetsSafely "build" "new" (buildPipeline [some "old", none]) := by
  refine ⟨rfl, fun safe => ?_⟩
  refine safe.fails_iff.mp ⟨_, rfl⟩ ⟨"old", _, rfl, _, List.mem_cons_self, _, rfl, rfl⟩

end Bundle

end ClusterHarness
