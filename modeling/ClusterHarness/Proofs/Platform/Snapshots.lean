import ClusterHarness.Platform.Integration
import ClusterHarness.Proofs.Cluster.Journaled
import ClusterHarness.Proofs.Json.Texts
import ClusterHarness.Proofs.Resource.Histories
import ClusterHarness.Proofs.Resource.NormalForms
import ClusterHarness.Proofs.Resource.Patches
import ClusterHarness.Proofs.Text.Utf8
import ClusterHarness.Rehearsal.Cluster

/-!
# Marking the tests of a snapshot

The patch that marks tests as passed is made from a copy of the snapshot, and it replaces the whole
list of conditions.  Whatever other clients have written since, the snapshot has the conditions of
the copy afterwards: what they added is lost unless the copy has it too.
-/

namespace ClusterHarness

variable {σ : Type}

/-! ## Conditions that can be written and read again -/

namespace Condition

/-- The generation has 64 bits, and the time is one of the calendar whose year has four digits. -/
structure Spelled (c : Condition) : Prop where
  time : ∀ t ∈ c.lastTransitionTime, t.Known ∧ t.InEra
  generation : Shape.int64.option.Typed c.observedGeneration

variable {now : Timestamp} {new : Condition}

theorem Spelled.getD (spelled : new.Spelled) (known : now.Known) (era : now.InEra) :
    ∀ t ∈ some (new.lastTransitionTime.getD now), t.Known ∧ t.InEra := by
  rintro t ⟨⟩
  cases carried : new.lastTransitionTime with
  | none => exact ⟨known, era⟩
  | some t => exact spelled.time t carried

theorem isSome_find?_of_holds {conditions : List Condition} {type : String}
    (trueThere : holds conditions type = true) : (find? conditions type).isSome = true := by
  unfold holds at trueThere
  cases found : find? conditions type with
  | none =>
      rw [found] at trueThere
      cases trueThere
  | some _ => rfl

theorem spelled_set (known : now.Known) (era : now.InEra) (spelled : new.Spelled)
    {conditions : List Condition} (each : ∀ c ∈ conditions, c.Spelled) :
    ∀ c ∈ set now new conditions, c.Spelled := by
  induction conditions with
  | nil =>
      intro c member
      cases List.mem_singleton.mp member
      exact ⟨spelled.getD known era, spelled.generation⟩
  | cons first rest ih =>
      obtain ⟨spelledFirst, spelledRest⟩ := List.forall_mem_cons.mp each
      unfold set
      split
      · refine List.forall_mem_cons.mpr ⟨⟨?_, spelled.generation⟩, spelledRest⟩
        unfold updated
        split
        · exact spelledFirst.time
        · exact spelled.getD known era
      · exact List.forall_mem_cons.mpr ⟨spelledFirst, ih spelledRest⟩

/-- Conditions are read as they were written, up to fractions of seconds. -/
theorem read_write_of_spelled {conditions : List Condition} (each : ∀ c ∈ conditions, c.Spelled) :
    codec.list.read (codec.list.write conditions) = some (shape.list.trimmed conditions) := by
  apply Condition.normal.list.restores
  · intro c member
    exact ⟨fun t inside => ((each c member).time t inside).1, (each c member).generation⟩
  · intro t inside
    obtain ⟨c, member, timed⟩ := List.mem_flatMap.mp inside
    change t ∈ Shape.timestamp.option.times c.lastTransitionTime at timed
    cases carried : c.lastTransitionTime with
    | none =>
        rw [carried] at timed
        cases timed
    | some time =>
        rw [carried] at timed
        cases List.mem_singleton.mp timed
        exact ((each c member).time t carried).2

end Condition

namespace Snapshot

theorem spelled_conditions {document : Json} {s : Snapshot} (read : codec.read document = some s)
    (eras : ∀ c ∈ conditions s, ∀ t ∈ c.lastTransitionTime, t.InEra) :
    ∀ c ∈ conditions s, c.Spelled := by
  obtain ⟨_, _, typed⟩ := normal.gives document s read
  intro c member
  cases reported : s.status with
  | none =>
      rw [conditions, reported] at member
      cases member
  | some status =>
      have typedOne : Condition.shape.Typed c := by
        rw [conditions, reported] at member
        exact typed status reported c member
      exact ⟨fun t inside => ⟨typedOne.1 t inside, eras c member t inside⟩, typedOne.2⟩

def passed : Condition := Condition.truthy "AppStudioTestSucceeded" "Passed" "Snapshot Passed"

theorem spelled_passedConditions {document : Json} {copy : Snapshot} {now : Timestamp}
    (copied : codec.read document = some copy)
    (eras : ∀ c ∈ conditions copy, ∀ t ∈ c.lastTransitionTime, t.InEra)
    (known : now.Known) (era : now.InEra) : ∀ c ∈ passedConditions now copy, c.Spelled :=
  have spelled : passed.Spelled := ⟨nofun, nofun⟩
  Condition.spelled_set known era spelled (spelled_conditions copied eras)

def passedRequest (now : Timestamp) (copy : Snapshot) : Except CallError ApiRequest :=
  ApiRequest.patchStatus (.namespaced (copy.metadata.namespace_.getD "")) kind
    (copy.metadata.name.getD "") (conditionsPatch (passedConditions now copy))

end Snapshot

/-! ## What the patch makes of a document -/

theorem merged_conditionsPatch (members : List (String × Json)) (conditions : List Condition) :
    ∃ others, (Json.obj members).merged (conditionsPatch conditions) =
      .obj (Json.put "status"
        (.obj (Json.put "conditions" (Condition.codec.list.write conditions) others)) members) :=
  ⟨(((Json.lookup members "status").getD .null).members?).getD [], rfl⟩

theorem ConditionStatus.read_put {conditions read : List Condition}
    (written : Condition.codec.list.read (Condition.codec.list.write conditions) = some read)
    (others : List (String × Json)) :
    ConditionStatus.codec.nullable.read
        (.obj (Json.put "conditions" (Condition.codec.list.write conditions) others)) =
      some (some ⟨read⟩) := by
  have only : ConditionStatus.codec.read
      (.obj (Json.put "conditions" (Condition.codec.list.write conditions) others)) =
        some ⟨read⟩ :=
    Parts.ofMembers_and rfl ((Parts.ofMembers_optional (Parts.valuesOf_put_self ..)).trans written)
  rw [Codec.nullable_read, only]
  rfl

/-- A patch of the conditions leaves all but the conditions of a snapshot to the server. -/
theorem Snapshot.read_merged {members : List (String × Json)} {metadata : Json} {server : Snapshot}
    {m : ObjectMeta} {conditions : List Condition} (found : codec.read (.obj members) = some server)
    (described : ObjectMeta.codec.read metadata = some m) (each : ∀ c ∈ conditions, c.Spelled) :
    codec.read ((Json.obj (Json.put "metadata" metadata members)).merged
        (conditionsPatch conditions)) =
      some { server with
        metadata := m, status := some ⟨Condition.shape.list.trimmed conditions⟩ } := by
  obtain ⟨others, merged⟩ :=
    merged_conditionsPatch (Json.put "metadata" metadata members) conditions
  have reported := ConditionStatus.read_put (Condition.read_write_of_spelled each) others
  rw [merged]
  exact PlatformObject.read_put found described reported

/-! ## The snapshot on the server -/

/-- What becomes of a request with a merge patch that is sent in a state.  It finds the members that
the object has when it arrives, whoever wrote them; the server then holds the object with the patch
merged and with metadata of its own, and answers with it. -/
structure World.Merges (w : World σ) (held : σ → Json) (request : ApiRequest)
    (members : List (String × Json)) (metadata : Json) (s : σ) : Prop where
  held_after : held (w.send request s).2 =
    (Json.obj (Json.put "metadata" metadata members)).merged (request.body.getD (.obj []))
  answered : ∃ text, (w.send request s).1.text = .ok text ∧
    Json.parse? text = some (held (w.send request s).2)

namespace Snapshot

/-- A snapshot of the server with its tests marked through a copy. -/
structure MarkedFrom (copy server marked : Snapshot) : Prop where
  succeeded : testsSucceeded marked = true
  finished : testsFinished marked = true
  /-- The other conditions are those of the copy, in whole seconds. -/
  others : (conditions marked).filter (·.type ≠ passed.type) =
    (Condition.shape.list.trimmed (conditions copy)).filter (·.type ≠ passed.type)
  /-- A condition of the server is there as it was exactly if the copy has it. -/
  kept_iff : ∀ c ∈ conditions server, c.type ≠ passed.type →
    (c ∈ conditions marked ↔ c ∈ Condition.shape.list.trimmed (conditions copy))
  same_spec : marked.spec = server.spec

theorem body_of_passedRequest {now : Timestamp} {copy : Snapshot} {request : ApiRequest}
    (requested : copy.passedRequest now = .ok request) :
    request.body = some (conditionsPatch (passedConditions now copy)) := by
  obtain ⟨_, _, _, rfl⟩ := ApiRequest.patchStatus_eq_ok.mp requested
  rfl

theorem holds_passedConditions (now : Timestamp) (copy : Snapshot) :
    Condition.holds (passedConditions now copy) passed.type = true := by
  have entry := Condition.find?_set_self now passed (conditions copy)
  rw [passedConditions, Condition.holds]
  exact (congrArg (Option.any Condition.isTrue) entry).trans (by
    cases Condition.find? (conditions copy) passed.type <;> rfl)

theorem filter_trimmed (conditions : List Condition) (type : String) :
    (Condition.shape.list.trimmed conditions).filter (·.type ≠ type) =
      Condition.shape.list.trimmed (conditions.filter (·.type ≠ type)) :=
  List.filter_map

theorem markedFrom {now : Timestamp} {copy server marked : Snapshot}
    (same : conditions marked = Condition.shape.list.trimmed (passedConditions now copy))
    (spec : marked.spec = server.spec) : MarkedFrom copy server marked := by
  have holds : Condition.holds (conditions marked) passed.type = true := by
    rw [same, Condition.holds_trimmed, holds_passedConditions]
  have others : (conditions marked).filter (·.type ≠ passed.type) =
      (Condition.shape.list.trimmed (conditions copy)).filter (·.type ≠ passed.type) := by
    rw [same, filter_trimmed, filter_trimmed]
    exact congrArg _ (Condition.filter_set now passed (conditions copy))
  have inTypes : passed.type ∈ testTypes := by decide
  refine ⟨List.any_eq_true.mpr ⟨_, inTypes, holds⟩, List.any_eq_true.mpr ⟨_, inTypes, ?_⟩, others,
    ?_, spec⟩
  · exact Condition.isSome_find?_of_holds holds
  · intro c _ other
    have member := congrArg (c ∈ ·) others
    simpa [other] using member

end Snapshot

theorem World.markTestsSucceeded_run (w : World σ) {copy : Snapshot} {request : ApiRequest} {s : σ}
    (requested : copy.passedRequest (w.today s) = .ok request) :
    (w.markTestsSucceeded copy).run s =
      (((w.send request s).1.text.bind (parsed Snapshot.codec)).mapError
        (.call (.patchStatus Snapshot.kind.name (copy.metadata.namespace_.getD "")
          (copy.metadata.name.getD ""))), (w.send request s).2) := by
  have asked : (w.objectOf (copy.passedRequest (w.today s))).run s =
      ((w.send request s).1.text.bind (parsed Snapshot.codec), (w.send request s).2) := by
    rw [requested, World.objectOf_run]
    rfl
  show (Except.mapError _ (ExceptT.run (w.objectOf (copy.passedRequest (w.today s))) s).1,
    (ExceptT.run (w.objectOf (copy.passedRequest (w.today s))) s).2) = _
  rw [asked]
  rfl

/-- The server's snapshot once the tests of a copy are marked. -/
theorem World.Merges.read {w : World σ} {held : σ → Json} {metadata : Json}
    {members : List (String × Json)} {now : Timestamp} {s : σ} {copy server : Snapshot}
    {m : ObjectMeta} {request : ApiRequest} (merges : w.Merges held request members metadata s)
    (requested : copy.passedRequest now = .ok request)
    (found : Snapshot.codec.read (.obj members) = some server)
    (described : ObjectMeta.codec.read metadata = some m)
    (spelled : ∀ c ∈ passedConditions now copy, c.Spelled) :
    Snapshot.codec.read (held (w.send request s).2) = some { server with
      metadata := m
      status := some ⟨Condition.shape.list.trimmed (passedConditions now copy)⟩ } := by
  rw [merges.held_after, Snapshot.body_of_passedRequest requested]
  exact Snapshot.read_merged found described spelled

/-- Marking the tests of a copy gives the server's snapshot the conditions of the copy, whatever it
had, and answers with it. -/
theorem World.marks_from_copy (w : World σ) {held : σ → Json} {origin metadata : Json}
    {members : List (String × Json)} {s : σ} {copy server : Snapshot} {m : ObjectMeta}
    {request : ApiRequest}
    (copied : Snapshot.codec.read origin = some copy)
    (eras : ∀ c ∈ Snapshot.conditions copy, ∀ t ∈ c.lastTransitionTime, t.InEra)
    (known : (w.today s).Known) (era : (w.today s).InEra)
    (requested : copy.passedRequest (w.today s) = .ok request)
    (found : Snapshot.codec.read (.obj members) = some server)
    (described : ObjectMeta.codec.read metadata = some m)
    (merges : w.Merges held request members metadata s) :
    ∃ marked t, (w.markTestsSucceeded copy).run s = (.ok marked, t) ∧
      Snapshot.codec.read (held t) = some marked ∧
      Snapshot.MarkedFrom copy server marked := by
  have spelled := Snapshot.spelled_passedConditions copied eras known era
  have read := merges.read requested found described spelled
  obtain ⟨text, shown, spells⟩ := merges.answered
  refine ⟨_, (w.send request s).2, ?_, read, Snapshot.markedFrom rfl rfl⟩
  rw [w.markTestsSucceeded_run requested, shown]
  show ((parsed Snapshot.codec text).mapError _, _) = _
  rw [parsed, spells, Option.bind_some, read]
  rfl

/-- Marking the tests of a copy loses none of the other conditions that the server holds. -/
def World.MarksWithoutLoss (w : World σ) (held : σ → Json) (copy : Snapshot) (s : σ) : Prop :=
  ∀ server marked, Snapshot.codec.read (held s) = some server →
    Snapshot.codec.read (held ((w.markTestsSucceeded copy).run s).2) = some marked →
    ∀ c ∈ Snapshot.conditions server, c.type ≠ Snapshot.passed.type →
      c ∈ Snapshot.conditions marked

namespace Rehearsal

/-- A server that holds one object and shows it; a patch is merged and gives it new metadata. -/
def keeper (metadata : Json) : World Json where
  toClocked := clocked (fun _ => 0) (fun _ held => held)
  today _ := ⟨⟨2023, 3, 1⟩, 0, 0, 0⟩
  random held := (numbers 0, held)
  send request held :=
    let after := match held, request.body with
      | .obj members, some patch => (Json.obj (Json.put "metadata" metadata members)).merged patch
      | _, _ => held
    (.answer 200 (Utf8.encode (Json.compact after)), after)

theorem keeper_merges {members : List (String × Json)} {metadata patch : Json} {request : ApiRequest}
    (patched : request.body = some patch)
    (exact_ : Json.Exact 127 ((Json.obj (Json.put "metadata" metadata members)).merged patch)) :
    (keeper metadata).Merges id request members metadata (.obj members) := by
  obtain ⟨_, _, _, _⟩ := request
  cases patched
  refine ⟨rfl, _, ?_, Json.parse?_compact exact_⟩
  unfold keeper ApiReply.text Http.accept
  dsimp only
  rw [Utf8.decode_encode]
  rfl

def snapshotMetadata (version : String) : Json :=
  .obj [("name", "snap"), ("namespace", "e2e"), ("resourceVersion", version)]

def snapshotMembers (version : String) (types : List String) : List (String × Json) :=
  [("metadata", snapshotMetadata version), ("spec", .obj [("application", "demo")]),
    ("status", .obj [("conditions", .arr (types.map fun type =>
      .obj [("type", type), ("status", "True")]))])]

def snapshotOf (version : String) (types : List String) : Snapshot where
  apiVersion := ""
  kind := ""
  metadata := { name := some "snap", namespace_ := some "e2e", resourceVersion := some version }
  spec := { application := "demo" }
  status := some ⟨types.map fun type => Condition.truthy type "" ""⟩

def earlyCopy : Snapshot := snapshotOf "1" ["Built"]

theorem read_earlyCopy :
    Snapshot.codec.read (.obj (snapshotMembers "1" ["Built"])) = some earlyCopy := rfl

def deployedSnapshot : Json := .obj (snapshotMembers "2" ["Built", "Deployed"])

theorem read_deployed : Snapshot.codec.read deployedSnapshot =
    some (snapshotOf "2" ["Built", "Deployed"]) := rfl

theorem read_snapshotMetadata (version : String) :
    ObjectMeta.codec.read (snapshotMetadata version) = some (snapshotOf version []).metadata := rfl

theorem known_marchFirst : Timestamp.Known ⟨⟨2023, 3, 1⟩, 0, 0, 0⟩ := by constructor <;> decide

theorem era_marchFirst : Timestamp.InEra ⟨⟨2023, 3, 1⟩, 0, 0, 0⟩ := by simp [Timestamp.InEra]

theorem eras_earlyCopy :
    ∀ c ∈ Snapshot.conditions earlyCopy, ∀ t ∈ c.lastTransitionTime, t.InEra := by
  intro c member t carried
  cases List.mem_singleton.mp member
  cases carried

/-- The request that marks the tests of the copy, and what the server makes of it. -/
theorem earlyCopy_merges : ∃ request,
    earlyCopy.passedRequest ⟨⟨2023, 3, 1⟩, 0, 0, 0⟩ = .ok request ∧
      (keeper (snapshotMetadata "3")).Merges id request (snapshotMembers "2" ["Built", "Deployed"])
        (snapshotMetadata "3") deployedSnapshot := by
  have made : Target.make
      ((Scope.namespaced "e2e").path Snapshot.kind ++ "/" ++ "snap" ++ "/status") [] =
        some ⟨(Scope.namespaced "e2e").path Snapshot.kind ++ "/" ++ "snap" ++ "/status", []⟩ := by
    decide +kernel
  refine ⟨_, ApiRequest.patchStatus_eq_ok.mpr ⟨by decide, _, made, rfl⟩, keeper_merges rfl ?_⟩
  show Json.Exact 127 (.obj [("spec", .obj [("application", "demo")]),
    ("metadata", snapshotMetadata "3"),
    ("status", .obj [("conditions", .arr [
      .obj [("type", .str _), ("status", .str _)],
      .obj [("type", .str _), ("status", .str _), ("reason", .str _), ("message", .str _),
        ("lastTransitionTime", .str _)]])])])
  simp [snapshotMetadata]

theorem marked_from_earlyCopy : ∃ marked t,
    ((keeper (snapshotMetadata "3")).markTestsSucceeded earlyCopy).run deployedSnapshot =
        (.ok marked, t) ∧
      Snapshot.codec.read t = some marked ∧
      Snapshot.MarkedFrom earlyCopy (snapshotOf "2" ["Built", "Deployed"]) marked := by
  obtain ⟨request, requested, merges⟩ := earlyCopy_merges
  exact (keeper (snapshotMetadata "3")).marks_from_copy read_earlyCopy eras_earlyCopy
    known_marchFirst era_marchFirst requested read_deployed (read_snapshotMetadata "3") merges

/-- The server merges the patch of the copy, and what was reported since the copy was read is
lost. -/
theorem not_marksWithoutLoss :
    Snapshot.codec.read (.obj (snapshotMembers "1" ["Built"])) = some earlyCopy ∧
    (∃ request, earlyCopy.passedRequest ⟨⟨2023, 3, 1⟩, 0, 0, 0⟩ = .ok request ∧
      (keeper (snapshotMetadata "3")).Merges id request (snapshotMembers "2" ["Built", "Deployed"])
        (snapshotMetadata "3") deployedSnapshot) ∧
    ¬(keeper (snapshotMetadata "3")).MarksWithoutLoss id earlyCopy deployedSnapshot := by
  refine ⟨read_earlyCopy, earlyCopy_merges, ?_⟩
  intro keeps
  obtain ⟨request, requested, merges⟩ := earlyCopy_merges
  have read := merges.read requested read_deployed (read_snapshotMetadata "3")
    (Snapshot.spelled_passedConditions read_earlyCopy eras_earlyCopy known_marchFirst
      era_marchFirst)
  have left := congrArg (fun ran => Snapshot.codec.read ran.2)
    ((keeper (snapshotMetadata "3")).markTestsSucceeded_run (s := deployedSnapshot) requested)
  have member := keeps _ _ read_deployed (left.trans read) (Condition.truthy "Deployed" "" "")
    (by decide) (by decide)
  revert member
  decide

end Rehearsal

end ClusterHarness
