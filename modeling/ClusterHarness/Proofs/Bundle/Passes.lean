import ClusterHarness.Proofs.Bundle.Retargeting

/-!
# Edits as passes over entries

An edit passes over the entries of a sequence once, and assigns to a key of an entry where it finds
its target.  Not every value has keys, and to assign to a key of one that has none is a crash.  An
edit only assigns to what it has just read a key of, so it cannot crash, whatever the shape of the
object; and as it reads no key that it assigns to, a second pass finds the same targets.
-/

namespace ClusterHarness

namespace Yaml

/-! ## Laws of setting a key -/

theorem setPair_setPair (key : String) (first second : Yaml) (pairs : List (Yaml × Yaml)) :
    setPair key second (setPair key first pairs) = setPair key second pairs := by
  induction pairs with
  | nil => exact if_pos (beq_str_iff.mpr rfl)
  | cons pair rest ih =>
      obtain ⟨k, old⟩ := pair
      cases found : k == .str key with
      | true => simp only [setPair, found, if_true]
      | false => simp only [setPair, found, Bool.false_eq_true, if_false, ih]

/-- The second of two values given to a key stays. -/
theorem set_set (value : Yaml) (key : String) (first second : Yaml) :
    (value.set key first).set key second = value.set key second := by
  induction value using untagged.induct with
  | case1 tag value ih => exact congrArg (tagged tag) ih
  | case2 value notTagged =>
      cases value with
      | map pairs => exact congrArg map (setPair_setPair key first second pairs)
      | tagged tag value => exact absurd rfl (notTagged tag value)
      | _ => rfl

/-- To give a key what it has changes nothing. -/
theorem set_get? {value found : Yaml} {key : String} (got : value.get? key = some found) :
    value.set key found = value :=
  (changedAt_set (R := fun old new => new = old) got rfl).eq fun _ _ => id

theorem find?_setPair_of_ne {key other : String} (different : other ≠ key) (new : Yaml)
    (pairs : List (Yaml × Yaml)) :
    (setPair key new pairs).find? (·.1 == .str other) = pairs.find? (·.1 == .str other) := by
  have apart : (Yaml.str key == .str other) = false :=
    beq_str_eq_false.mpr fun same => different (str.inj same).symm
  induction pairs with
  | nil => rw [setPair, List.find?_cons_of_neg (by simpa using apart)]
  | cons pair rest ih =>
      obtain ⟨k, old⟩ := pair
      cases found : k == .str key with
      | true =>
          cases beq_str_iff.mp found
          simp only [setPair, found, if_true, List.find?_cons, apart]
      | false =>
          simp only [setPair, found, Bool.false_eq_true, if_false, List.find?_cons, ih]

/-- To give a key a value leaves the others. -/
theorem get?_set_of_ne {key other : String} (different : other ≠ key) (value new : Yaml) :
    (value.set key new).get? other = value.get? other := by
  induction value using untagged.induct with
  | case1 tag value ih => exact ih
  | case2 value notTagged =>
      cases value with
      | map pairs => exact congrArg (Option.map Prod.snd) (find?_setPair_of_ne different new pairs)
      | tagged tag value => exact absurd rfl (notTagged tag value)
      | _ => rfl

/-! ## Assignments -/

/-- Gives a key a value in a mapping, perhaps under tags. -/
def insert? : Yaml → String → Yaml → Option Yaml
  | .map pairs, key, new => some (.map (setPair key new pairs))
  | .tagged tag value, key, new => (insert? value key new).map (.tagged tag)
  | _, _, _ => none

/-- Assigns to a key.  A null becomes a mapping with this key; without a mapping it is a crash. -/
def assign? : Yaml → String → Yaml → Option Yaml
  | .null, key, new => some (.map [(.str key, new)])
  | value, key, new => value.insert? key new

theorem insert?_eq_set {value found : Yaml} {other : String}
    (got : value.get? other = some found) (key : String) (new : Yaml) :
    value.insert? key new = some (value.set key new) := by
  induction value using untagged.induct with
  | case1 tag value ih => rw [insert?, ih got, Option.map_some, set]
  | case2 value notTagged =>
      cases value with
      | map pairs => rfl
      | tagged tag value => exact absurd rfl (notTagged tag value)
      | _ => cases got

/-- What has a key can be assigned to. -/
theorem assign?_eq_set {value found : Yaml} {other : String}
    (got : value.get? other = some found) (key : String) (new : Yaml) :
    value.assign? key new = some (value.set key new) := by
  cases value with
  | null => cases got
  | _ => exact insert?_eq_set got key new

/-- A text has no keys, and cannot be assigned to. -/
example : (Yaml.str "build").assign? "bundle" (.str "new") = none := rfl

def putItems (items : List Yaml) : Yaml → Yaml
  | .seq _ => .seq items
  | .tagged tag value => .tagged tag (putItems items value)
  | value => value

theorem mapItems_eq_putItems {value : Yaml} {items : List Yaml} (got : value.items? = some items)
    (f : Yaml → Yaml) : value.mapItems f = value.putItems (items.map f) := by
  induction value using untagged.induct with
  | case1 tag value ih => exact congrArg (tagged tag) (ih got)
  | case2 value notTagged =>
      cases value with
      | seq items' =>
          cases got
          rfl
      | tagged tag value => exact absurd rfl (notTagged tag value)
      | _ => cases got

theorem alter_congr {value old : Yaml} {key : String} {f g : Yaml → Yaml}
    (got : value.get? key = some old) (same : f old = g old) :
    value.alter key f = value.alter key g := by
  rw [alter, alter, got]
  exact congrArg (value.set key) same

end Yaml

namespace Bundle

/-! ## Passes -/

/-- Visits entries in turn, each of which may change, with a state that is carried along; there is
no result if a visit crashes. -/
def pass? {α : Type} (visit : α → Yaml → Option (α × Yaml)) : α → List Yaml → Option (α × List Yaml)
  | state, [] => some (state, [])
  | state, entry :: rest => do
    let (state, entry) ← visit state entry
    let (state, rest) ← pass? visit state rest
    return (state, entry :: rest)

/-- If no visit crashes, a pass changes every entry and folds the state. -/
theorem pass?_eq {α : Type} {visit : α → Yaml → Option (α × Yaml)} {next : α → Yaml → α}
    {f : Yaml → Yaml} (visited : ∀ state entry, visit state entry = some (next state entry, f entry))
    (state : α) (entries : List Yaml) :
    pass? visit state entries = some (entries.foldl next state, entries.map f) := by
  induction entries generalizing state with
  | nil => rfl
  | cons entry rest ih =>
      rw [pass?, visited, Option.bind_eq_bind, Option.bind_some]
      dsimp only
      rw [ih]
      rfl

/-- Puts other entries into a sequence of an object's specification. -/
def putEntries (field : String) (entries : List Yaml) (object : Yaml) : Yaml :=
  object.alter "spec" (·.alter field (·.putItems entries))

theorem mapEntries_eq_putEntries {field : String} {object : Yaml} {entries : List Yaml}
    (listed : entries? field object = some entries) (f : Yaml → Yaml) :
    mapEntries field f object = putEntries field (entries.map f) object := by
  obtain ⟨list, gotList, items⟩ := Option.bind_eq_some_iff.mp listed
  obtain ⟨spec, gotSpec, got⟩ := Option.bind_eq_some_iff.mp gotList
  exact Yaml.alter_congr gotSpec (Yaml.alter_congr got (Yaml.mapItems_eq_putItems items f))

/-- A second change of the entries that changes none of them changes nothing. -/
theorem mapEntries_mapEntries {field : String} {f : Yaml → Yaml} {object : Yaml}
    {entries : List Yaml} (listed : entries? field object = some entries)
    (again : ∀ entry, f (f entry) = f entry) :
    entries? field (mapEntries field f object) = some (entries.map f) ∧
      mapEntries field f (mapEntries field f object) = mapEntries field f object := by
  have changed := entriesChanged_mapEntries (R := fun entry entry' => f entry = entry') listed
    fun _ _ => rfl
  obtain ⟨before, after, listed', listed'', each⟩ := changed.entries?
  cases listed.symm.trans listed'
  cases List.forall₂_eq_eq_eq ▸ List.forall₂_map_left_iff.mpr each
  refine ⟨listed'', mapEntries_eq_self listed'' fun entry' member => ?_⟩
  obtain ⟨entry, _, rfl⟩ := List.mem_map.mp member
  exact again entry

/-! ## The pass that retargets a task -/

/-- Points an entry at a bundle, if it refers to the task, and keeps in mind what its bundle was in
place of what was found before. -/
def visitReference? (task bundle : String) (previous : Option String) (entry : Yaml) :
    Option (Option String × Yaml) :=
  match reference? task entry with
  | none => some (previous, entry)
  | some reference => do
    let retargeted ← reference.assign? "bundle" (.str bundle)
    return (bundleOf? reference, entry.set "taskRef" retargeted)

/-- Retargeting a task in one pass, with no result if it crashes. -/
def retargetTask? (task bundle : String) (pipeline : Yaml) :
    Option (Except EditError String × Yaml) :=
  match entries? "tasks" pipeline with
  | none => some (.error (.noSequence "tasks"), pipeline)
  | some entries => do
    let (previous, entries) ← pass? (visitReference? task bundle) none entries
    return (previous.elim (.error (.noReference task)) .ok, putEntries "tasks" entries pipeline)

variable {task bundle step image : String}

theorem visitReference?_eq (previous : Option String) (entry : Yaml) :
    visitReference? task bundle previous entry =
      some ((reference? task entry).elim previous bundleOf?, retargetEntry task bundle entry) := by
  rw [visitReference?, retargetEntry]
  cases refers : reference? task entry with
  | none => rfl
  | some reference =>
      obtain ⟨_, gotName⟩ := exists_get?_of_hasName (reference?_eq_some.mp refers).2
      dsimp only
      rw [Yaml.assign?_eq_set gotName]
      rfl

/-- What is in mind at the end is the bundle of the last reference. -/
theorem foldl_bundleOf? (task : String) (previous : Option String) (entries : List Yaml) :
    entries.foldl (fun previous entry => (reference? task entry).elim previous bundleOf?) previous =
      (entries.filterMap (reference? task)).getLast?.elim previous bundleOf? := by
  induction entries generalizing previous with
  | nil => rfl
  | cons entry rest ih =>
      rw [List.foldl_cons, ih]
      cases refers : reference? task entry with
      | none => rw [List.filterMap_cons_none refers, Option.elim_none]
      | some reference =>
          rw [List.filterMap_cons_some refers, List.getLast?_cons]
          cases (rest.filterMap (reference? task)).getLast? <;> rfl

/-- Retargeting does not crash. -/
theorem retargetTask?_eq (task bundle : String) (pipeline : Yaml) :
    retargetTask? task bundle pipeline = some (retargetTask task bundle pipeline) := by
  unfold retargetTask? retargetTask
  cases listed : entries? "tasks" pipeline with
  | none => rfl
  | some entries =>
      have inMind : (entries.filterMap (reference? task)).getLast?.elim none bundleOf? =
          lastBundle? task entries := by
        rw [lastBundle?]
        cases (entries.filterMap (reference? task)).getLast? <;> rfl
      dsimp only
      rw [pass?_eq visitReference?_eq, foldl_bundleOf?, inMind, mapEntries_eq_putEntries listed]
      cases lastBundle? task entries <;> rfl

/-! ## The pass that replaces the image of a step -/

/-- Gives a step another image, if it has the name, and keeps in mind that there was one. -/
def visitStep? (step image : String) (found : Bool) (entry : Yaml) : Option (Bool × Yaml) :=
  if hasName step entry then (entry.assign? "image" (.str image)).map (true, ·)
  else some (found, entry)

/-- Replacing the image of a step in one pass, with no result if it crashes. -/
def replaceStepImage? (step image : String) (task : Yaml) :
    Option (Except EditError Unit × Yaml) :=
  match entries? "steps" task with
  | none => some (.error (.noSequence "steps"), task)
  | some entries => do
    let (found, entries) ← pass? (visitStep? step image) false entries
    return (if found then .ok () else .error (.noStep step), putEntries "steps" entries task)

theorem visitStep?_eq (found : Bool) (entry : Yaml) :
    visitStep? step image found entry =
      some (found || hasName step entry, replaceImage step image entry) := by
  rw [visitStep?, replaceImage]
  cases named : hasName step entry with
  | false => simp
  | true =>
      obtain ⟨_, gotName⟩ := exists_get?_of_hasName named
      simp [Yaml.assign?_eq_set gotName]

theorem replaceImage_of_not_hasName {entry : Yaml} (other : hasName step entry = false) :
    replaceImage step image entry = entry := by
  rw [replaceImage, other]
  rfl

theorem foldl_hasName (step : String) (found : Bool) (entries : List Yaml) :
    entries.foldl (fun found entry => found || hasName step entry) found =
      (found || entries.any (hasName step)) := by
  induction entries generalizing found with
  | nil => exact (Bool.or_false found).symm
  | cons entry rest ih => rw [List.foldl_cons, ih, List.any_cons, Bool.or_assoc]

/-- Replacing does not crash. -/
theorem replaceStepImage?_eq (step image : String) (task : Yaml) :
    replaceStepImage? step image task = some (replaceStepImage step image task) := by
  unfold replaceStepImage? replaceStepImage
  cases listed : entries? "steps" task with
  | none => rfl
  | some entries =>
      dsimp only
      rw [pass?_eq visitStep?_eq, foldl_hasName, Bool.false_or]
      cases some_ : entries.any (hasName step) with
      | true =>
          rw [mapEntries_eq_putEntries listed]
          rfl
      | false =>
          have others : ∀ entry ∈ entries, replaceImage step image entry = entry :=
            fun entry member => replaceImage_of_not_hasName (by
              simpa using List.any_eq_false.mp some_ entry member)
          have same := mapEntries_eq_self listed others
          rw [mapEntries_eq_putEntries listed] at same
          rw [Option.bind_eq_bind, Option.bind_some]
          dsimp only
          rw [same]
          rfl

/-! ## Second passes -/

/-- A retargeted entry refers to the task where it did before. -/
theorem reference?_retargetEntry (task bundle : String) (entry : Yaml) :
    reference? task (retargetEntry task bundle entry) =
      (reference? task entry).map (·.set "bundle" (.str bundle)) := by
  cases refers : reference? task entry with
  | none => rw [retargetEntry_eq_self refers, refers, Option.map_none]
  | some reference =>
      obtain ⟨got, named⟩ := reference?_eq_some.mp refers
      rw [retargetEntry, refers, Option.map_some, reference?_eq_some]
      refine ⟨(Yaml.setTo_set got _).get?, ?_⟩
      rw [hasName, Yaml.get?_set_of_ne (by decide)]
      exact named

theorem retargetEntry_retargetEntry (task bundle : String) (entry : Yaml) :
    retargetEntry task bundle (retargetEntry task bundle entry) =
      retargetEntry task bundle entry := by
  cases refers : reference? task entry with
  | none => rw [retargetEntry_eq_self refers, retargetEntry_eq_self refers]
  | some reference =>
      have refers' := reference?_retargetEntry task bundle entry
      rw [refers, Option.map_some] at refers'
      rw [retargetEntry, refers']
      dsimp only
      rw [Yaml.set_set]
      exact Yaml.set_get? (reference?_eq_some.mp refers').1

/-- After retargeting, the last reference has the bundle. -/
theorem lastBundle?_map_retargetEntry {entries : List Yaml} {previous : String}
    (last : lastBundle? task entries = some previous) :
    lastBundle? task (entries.map (retargetEntry task bundle)) = some bundle := by
  obtain ⟨reference, found, bundled⟩ := Option.bind_eq_some_iff.mp last
  obtain ⟨_, got⟩ : ∃ value, reference.get? "bundle" = some value :=
    (Option.bind_eq_some_iff.mp bundled).imp fun _ => And.left
  have references : (entries.map (retargetEntry task bundle)).filterMap (reference? task) =
      (entries.filterMap (reference? task)).map (·.set "bundle" (.str bundle)) := by
    rw [List.filterMap_map, List.map_filterMap]
    exact List.filterMap_congr fun entry _ => reference?_retargetEntry task bundle entry
  rw [lastBundle?, references, List.getLast?_map, found, Option.map_some, Option.bind_some,
    bundleOf?, (Yaml.setTo_set got _).get?]
  rfl

theorem hasName_replaceImage (step image : String) (entry : Yaml) :
    hasName step (replaceImage step image entry) = hasName step entry := by
  rw [replaceImage]
  split
  · rw [hasName, Yaml.get?_set_of_ne (by decide), ← hasName]
  · rfl

theorem replaceImage_replaceImage (step image : String) (entry : Yaml) :
    replaceImage step image (replaceImage step image entry) = replaceImage step image entry := by
  rw [replaceImage, hasName_replaceImage]
  cases named : hasName step entry with
  | false => rfl
  | true => rw [replaceImage, named, if_pos rfl, if_pos rfl, Yaml.set_set]

/-! ## What the edits touch -/

/-- Every step of some name has this image. -/
def ShowsImage (step image : String) (task : Yaml) : Prop :=
  ∃ entries, entries? "steps" task = some entries ∧
    ∀ entry ∈ entries, hasName step entry = true → entry.get? "image" = some (.str image)

/-- Retargeting does not crash.  If it succeeds, it has changed nothing but the bundles of all
references to the task, which are the new one now, and done again it changes nothing and finds the
new bundle. -/
structure RetargetsExactly (task bundle : String) (pipeline : Yaml) : Prop where
  completes : retargetTask? task bundle pipeline = some (retargetTask task bundle pipeline)
  changes : ∀ previous pipeline', retargetTask task bundle pipeline = (.ok previous, pipeline') →
    EntriesChanged "tasks" (EntryRetargeted task bundle) pipeline pipeline' ∧
      PointsTo task bundle pipeline'
  repeats : ∀ previous pipeline', retargetTask task bundle pipeline = (.ok previous, pipeline') →
    retargetTask task bundle pipeline' = (.ok bundle, pipeline')

/-- Replacing the image of a step does not crash.  It succeeds exactly if there is a step of the
name, and changes nothing otherwise.  If it succeeds, it has changed nothing but the images of all
steps of the name, which are the new one now, and done again it succeeds and changes nothing. -/
structure ReplacesExactly (step image : String) (task : Yaml) : Prop where
  completes : replaceStepImage? step image task = some (replaceStepImage step image task)
  succeeds_iff : (replaceStepImage step image task).1 = .ok () ↔
    ∃ entries, entries? "steps" task = some entries ∧ ∃ entry ∈ entries, hasName step entry = true
  unchanged : ∀ fault, (replaceStepImage step image task).1 = .error fault →
    (replaceStepImage step image task).2 = task
  changes : ∀ task', replaceStepImage step image task = (.ok (), task') →
    EntriesChanged "steps" (StepReplaced step image) task task' ∧ ShowsImage step image task'
  repeats : ∀ task', replaceStepImage step image task = (.ok (), task') →
    replaceStepImage step image task' = (.ok (), task')

theorem retargetTask_again {previous : String} {pipeline pipeline' : Yaml}
    (edited : retargetTask task bundle pipeline = (.ok previous, pipeline')) :
    retargetTask task bundle pipeline' = (.ok bundle, pipeline') := by
  obtain ⟨entries, listed, last, rfl⟩ := exists_listed_of_retargeted edited
  obtain ⟨listed', same⟩ := mapEntries_mapEntries listed (retargetEntry_retargetEntry task bundle)
  rw [retargetTask_of_last bundle listed' (lastBundle?_map_retargetEntry last), same]

/-- With a step of the name, replacing changes all entries. -/
theorem replaceStepImage_of_hasName {task : Yaml} {entries : List Yaml}
    (listed : entries? "steps" task = some entries) (named : entries.any (hasName step) = true)
    (image : String) :
    replaceStepImage step image task =
      (.ok (), mapEntries "steps" (replaceImage step image) task) := by
  unfold replaceStepImage
  rw [listed]
  exact if_pos named

theorem replaceStepImage_fst_eq_ok {task : Yaml} :
    (replaceStepImage step image task).1 = .ok () ↔
      ∃ entries, entries? "steps" task = some entries ∧
        ∃ entry ∈ entries, hasName step entry = true := by
  constructor
  · intro succeeded
    exact (replaceStepImage_eq_ok (Prod.ext succeeded rfl)).2
  · rintro ⟨entries, listed, named⟩
    rw [replaceStepImage_of_hasName listed (List.any_eq_true.mpr named)]

theorem replaceStepImage_again {task task' : Yaml}
    (edited : replaceStepImage step image task = (.ok (), task')) :
    replaceStepImage step image task' = (.ok (), task') := by
  obtain ⟨entries, listed, named, rfl⟩ := exists_listed_of_replaced edited
  obtain ⟨listed', same⟩ := mapEntries_mapEntries listed (replaceImage_replaceImage step image)
  have named' : (entries.map (replaceImage step image)).any (hasName step) = true := by
    simpa [hasName_replaceImage] using named
  rw [replaceStepImage_of_hasName listed' named', same]

theorem showsImage_of_replaced {task task' : Yaml}
    (edited : replaceStepImage step image task = (.ok (), task')) :
    ShowsImage step image task' := by
  obtain ⟨entries, listed, _, rfl⟩ := exists_listed_of_replaced edited
  refine ⟨_, (mapEntries_mapEntries listed (replaceImage_replaceImage step image)).1, ?_⟩
  intro entry' member named'
  obtain ⟨entry, _, rfl⟩ := List.mem_map.mp member
  have named := (hasName_replaceImage step image entry).symm.trans named'
  obtain ⟨_, gotName⟩ := exists_get?_of_hasName named
  rw [replaceImage, if_pos named]
  exact (Yaml.setTo_set gotName _).get?

theorem replaceStepImage_of_error {fault : EditError} {task : Yaml}
    (failed : (replaceStepImage step image task).1 = .error fault) :
    (replaceStepImage step image task).2 = task := by
  unfold replaceStepImage at failed ⊢
  cases listed : entries? "steps" task with
  | none => rfl
  | some entries =>
      rw [listed] at failed
      dsimp only at failed ⊢
      split at failed
      · cases failed
      · next none_ => rw [if_neg none_]

/-- Both edits touch exactly their targets in objects of any shape, and can be repeated. -/
theorem edits_exact (name text : String) (object : Yaml) :
    RetargetsExactly name text object ∧ ReplacesExactly name text object := by
  constructor
  · constructor
    · exact retargetTask?_eq name text object
    · intro previous object' edited
      obtain ⟨changed, points, _⟩ := retargetTask_eq_ok edited
      exact ⟨changed, points⟩
    · intro previous object' edited
      exact retargetTask_again edited
  · constructor
    · exact replaceStepImage?_eq name text object
    · exact replaceStepImage_fst_eq_ok
    · intro fault failed
      exact replaceStepImage_of_error failed
    · intro object' edited
      exact ⟨(replaceStepImage_eq_ok edited).1, showsImage_of_replaced edited⟩
    · intro object' edited
      exact replaceStepImage_again edited

/-- Of entries of any shape, only the one that refers to the task is pointed at the bundle. -/
example :
    retargetTask? "build" "new" (.map [(.str "spec", .map [(.str "tasks", .seq
        [.null, .seq [], .map [(.str "taskRef", .str "build")],
          .tagged "!step" (.map [(.str "taskRef", .map [(.str "name", .str "build"),
            (.str "bundle", .str "old")])])])])]) =
      some (.ok "old", .map [(.str "spec", .map [(.str "tasks", .seq
        [.null, .seq [], .map [(.str "taskRef", .str "build")],
          .tagged "!step" (.map [(.str "taskRef", .map [(.str "name", .str "build"),
            (.str "bundle", .str "new")])])])])]) := by
  rfl

end Bundle

end ClusterHarness
