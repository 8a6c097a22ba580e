import ClusterHarness.Proofs.Bundle.Publishing
import ClusterHarness.Proofs.Cluster.Journaled
import ClusterHarness.Proofs.Job.Pairing
import ClusterHarness.Workflow.Suites

/-!
# What the steps of a job may do

Programs are looked for, pull requests looked up, bundles patched, the platform installed, a user
registered, the suites run, and the run is reported: each step has acts of its own, and its success
is that of the last thing it did.
-/

namespace ClusterHarness

open Errand

variable {σ : Type}

namespace Host

open Workflow

variable (host : Host σ)

/-! ## Looking for programs -/

def whichCommand (program : String) : Command :=
  { Command.ofProgram "which" [program] with captured := true }

/-- Programs are looked for one after the other, up to one that is not found. -/
inductive Searching : List String → List Act → Bool → Prop where
  | found : Searching [] [] true
  | missing {program : String} {rest : List String} {launch : Launch}
      (command : launch.command = whichCommand program) (failed : launch.succeeded = false) :
      Searching (program :: rest) [.launched launch] false
  | goesOn {program : String} {rest : List String} {launch : Launch} {acts : List Act}
      {found : Bool} (command : launch.command = whichCommand program)
      (succeeded : launch.succeeded = true) (others : Searching rest acts found) :
      Searching (program :: rest) (.launched launch :: acts) found

theorem comesTo_hasProgram (program : String) :
    (host.journaled.hasProgram program).ComesTo fun result acts =>
      ∃ launch, acts = [.launched launch] ∧ launch.command = whichCommand program ∧
        result = .ok launch.succeeded := by
  intro s before
  have ran : (host.journaled.hasProgram program).run (s, before) =
      (.ok (Launch.succeeded ⟨whichCommand program, (host.launch (whichCommand program) s).1⟩),
        ((host.launch (whichCommand program) s).2, before ++
          [.launched ⟨whichCommand program, (host.launch (whichCommand program) s).1⟩])) := by
    have noted : host.journaled.launch (whichCommand program) (s, before) =
        ((host.launch (whichCommand program) s).1, ((host.launch (whichCommand program) s).2,
          before ++ [.launched
            ⟨whichCommand program, (host.launch (whichCommand program) s).1⟩])) := rfl
    unfold hasProgram
    rw [ExceptT.run_mk]
    dsimp only
    rw [← whichCommand, noted]
    obtain ⟨_ | _, _⟩ := host.launch (whichCommand program) s <;> rfl
  exact ⟨_, _, _, ran, _, rfl, rfl, rfl⟩

theorem comesTo_checkPrograms (programs : List String) :
    (host.journaled.checkPrograms programs).ComesTo fun result acts =>
      Searching programs acts result.isOk := by
  induction programs with
  | nil => exact comesTo_pure .found
  | cons program rest ih =>
      rw [checkPrograms]
      refine (host.comesTo_hasProgram program).bind (fun failure acts failed => ?_)
        fun found acts looked => ?_
      · obtain ⟨_, _, _, same⟩ := failed
        cases same
      · obtain ⟨launch, rfl, command, same⟩ := looked
        cases same
        cases succeeded : launch.succeeded with
        | true => exact ih.mono fun _ _ others => .goesOn command succeeded others
        | false => exact comesTo_fail (.missing command succeeded)

/-- Programs are looked for once all secrets are set. -/
inductive Checking (env : Environment) : List Act → Bool → Prop where
  | unset (missing : missingSecrets env ≠ []) : Checking env [] false
  | searched {acts : List Act} {found : Bool} (complete : missingSecrets env = [])
      (searching : Searching requiredPrograms acts found) : Checking env acts found

theorem comesTo_preflight :
    host.journaled.preflight.ComesTo fun result acts =>
      Checking host.environment acts result.isOk := by
  have same : host.journaled.environment = host.environment := rfl
  unfold preflight
  dsimp only
  rw [same]
  split
  · next complete =>
      exact (host.comesTo_checkPrograms requiredPrograms).mono fun _ _ searching =>
        .searched (List.isEmpty_iff.mp complete) searching
  · next missing =>
      exact comesTo_fail (.unset fun complete => missing (List.isEmpty_iff.mpr complete))

/-! ## Installing the platform -/

def cloneCommand (bindings : Dictionary String) (directory : String) : Command :=
  { Command.ofProgram "git" ["clone", "--depth", "1", "--branch", (infraSource bindings).2,
      (infraSource bindings).1, directory] with captured := true }

def installerCommand (bindings : Dictionary String) (directory : String) : Command :=
  ((Command.ofProgram (joinPath directory bootstrapScript) ["preview"]).inside
    directory).withVariables bindings.entries

/-- One attempt to install the platform: the installer runs once it is cloned, for which there has to
be room. -/
inductive Installing (host : Host σ) (bindings : Dictionary String) : List Act → Bool → Prop where
  | noRoom {s : σ} {fault : String} (failed : (host.temporaryDirectory s).1 = .error fault) :
      Installing host bindings [] false
  | notCloned {directory : String} {clone : Launch}
      (command : clone.command = cloneCommand bindings directory)
      (failed : clone.succeeded = false) : Installing host bindings [.launched clone] false
  | cloned {directory : String} {clone installer : Launch}
      (command : clone.command = cloneCommand bindings directory)
      (succeeded : clone.succeeded = true)
      (runs : installer.command = installerCommand bindings directory) :
      Installing host bindings [.launched clone, .launched installer] installer.succeeded

/-- The platform is installed at the first attempt or, when that has failed, at a second one. -/
inductive Bootstrapping (host : Host σ) (bindings : Dictionary String) :
    List Act → Bool → Prop where
  | once {acts : List Act} (installed : Installing host bindings acts true) :
      Bootstrapping host bindings acts true
  | again {acts more : List Act} {done : Bool} (failed : Installing host bindings acts false)
      (second : Installing host bindings more done) :
      Bootstrapping host bindings (acts ++ more) done

theorem comesTo_bootstrap (bindings : Dictionary String) :
    (host.journaled.bootstrap bindings).ComesTo fun result acts =>
      Installing host bindings acts result.isOk := by
  unfold bootstrap
  dsimp only
  refine host.comesTo_temporary_bind (fun _ _ failed => .noRoom failed) fun directory => ?_
  refine (host.comesTo_await _).bind (fun failure acts cloned => ?_) fun _ acts cloned => ?_
  · obtain ⟨clone, rfl, command, succeeded⟩ := cloned
    exact .notCloned command succeeded.symm
  · obtain ⟨clone, rfl, command, succeeded⟩ := cloned
    refine comesTo_tell_bind host _ ?_
    refine (host.comesTo_perform _).within fun result acts performed => ?_
    obtain ⟨installer, rfl, runs, done⟩ := performed
    rw [isOk_mapError, done]
    exact .cloned command succeeded.symm runs

theorem comesTo_bootstrapWithRetry (bindings : Dictionary String) :
    (host.journaled.bootstrapWithRetry bindings).ComesTo fun result acts =>
      Bootstrapping host bindings acts result.isOk := by
  refine (host.comesTo_retryFrom (host.comesTo_bootstrap bindings) bootstrapAttempts
    bootstrapDelay 1 1).mono fun result acts attempts => ?_
  cases attempts with
  | succeeds made => exact .once made
  | again made others =>
      cases others with
      | last second => exact .again made second

/-! ## Registering a user -/

theorem comesTo_connect : host.journaled.connect.ComesTo fun _ acts => acts = [] := by
  intro s before
  have read : host.journaled.connect.run (s, before) =
      ((host.connect.run s).1, (s, before)) := by
    have same : host.journaled.kubeconfig (s, before) = host.kubeconfig s := rfl
    unfold connect
    rw [ExceptT.run_mk, ExceptT.run_mk, same]
    obtain _ | _ | _ := (host.kubeconfig s).map Kubeconfig.defaultNamespace <;> rfl
  exact ⟨_, s, [], by rw [List.append_nil]; exact read, rfl⟩

def signupRequest : Except CallError ApiRequest :=
  ApiRequest.create (.namespaced hostNamespace) UserSignup.kind
    (HasKind.codec.write (approvedSignup defaultUser defaultEmail))

/-- A user is registered by a request to sign up, after which the API server is only asked whether
that is complete.  Nothing is asked without a cluster. -/
inductive Registering : List Act → Bool → Prop where
  | unasked : Registering [] false
  | asked {request : ApiRequest} {reply : ApiReply} {acts : List Act} {done : Bool}
      (made : signupRequest = .ok request) (asks : ∀ act ∈ acts, act.Asks) :
      Registering (.asked request reply :: acts) done

/-- Creating an object takes one request, if it can be made. -/
theorem comesTo_create {α : Type} [HasKind α] (ns : String) (object : α) :
    (ofSession (host.journaled.toWorld.create ns object)).ComesTo fun result acts =>
      (acts = [] ∧ result.isOk = false) ∨
        ∃ request reply, acts = [.asked request reply] ∧
          ApiRequest.create (.namespaced ns) (HasKind.kind α) (HasKind.codec.write object) =
            .ok request := by
  intro s before
  have ran : (host.journaled.toWorld.create ns object).run (s, before) =
      ((((host.journaled.toWorld.objectOf (α := α) (ApiRequest.create (.namespaced ns)
          (HasKind.kind α) (HasKind.codec.write object))).run (s, before)).1).mapError
            (Error.call (.create (HasKind.kind α).name ns)),
        ((host.journaled.toWorld.objectOf (α := α) (ApiRequest.create (.namespaced ns)
          (HasKind.kind α) (HasKind.codec.write object))).run (s, before)).2) := rfl
  rw [run_ofSession, ran]
  cases made : ApiRequest.create (.namespaced ns) (HasKind.kind α) (HasKind.codec.write object) with
  | error cause =>
      rw [World.objectOf_error_run]
      exact ⟨_, s, [], by rw [List.append_nil], Or.inl ⟨rfl, rfl⟩⟩
  | ok request =>
      rw [World.objectOf_run]
      exact ⟨_, (host.send request s).2, _, rfl, Or.inr ⟨request, _, rfl, rfl⟩⟩

theorem comesTo_registerUser :
    (ofSession (host.journaled.toWorld.registerUser defaultUser defaultEmail)).ComesTo
      fun result acts => Registering acts result.isOk := by
  unfold World.registerUser
  rw [ofSession_bind]
  refine (host.comesTo_create _ _).bind (fun failure acts created => ?_) fun _ acts created => ?_
  · rcases created with ⟨rfl, _⟩ | ⟨request, reply, rfl, made⟩
    · exact .unasked
    · exact .asked made nofun
  · rcases created with ⟨_, impossible⟩ | ⟨request, reply, rfl, made⟩
    · cases impossible
    · rw [ofSession_bind]
      have waits : (ofSession (host.journaled.toWorld.awaitSignup defaultUser)).Only Act.Asks :=
        only_ofSession (host.onwardInTime_grown.leads_awaitSignup defaultUser)
      exact (waits.bind fun _ => only_pure _).mono fun _ _ asks => .asked made asks

theorem comesTo_registerDefaultUser :
    host.journaled.registerDefaultUser.ComesTo fun result acts =>
      Registering acts result.isOk := by
  have registers : (discard <| ofSession
      (host.journaled.toWorld.registerUser defaultUser defaultEmail)).ComesTo
        fun result acts => Registering acts result.isOk :=
    ComesTo.map host.comesTo_registerUser fun result _ known => by cases result <;> exact known
  have connects : (discard host.journaled.connect).ComesTo fun _ acts => acts = [] :=
    ComesTo.map host.comesTo_connect fun _ _ none => none
  have inTurn : (discard host.journaled.connect >>= fun _ => discard <| ofSession
      (host.journaled.toWorld.registerUser defaultUser defaultEmail)).ComesTo
        fun result acts => Registering acts result.isOk := by
    refine connects.bind (fun _ acts none => ?_) fun _ acts none => ?_
    · rw [none]
      exact .unasked
    · rw [none]
      exact registers
  unfold registerDefaultUser
  refine (inTurn.within (Q := fun result acts => Registering acts result.isOk)
    fun result _ known => by rwa [isOk_mapError]).bind (fun _ _ known => known)
    fun _ _ known => comesTo_tell host _ ?_
  rwa [List.append_nil]

/-! ## Running the suites -/

def suitesCommand (bindings : Dictionary String) (artifactDir : String) : Command :=
  ((Command.ofProgram "cargo"
    ["test", "--features", "e2e-tests", "--test", "e2e", "--", "--test-threads=1"]).inside
      host.repository).withVariables (("ARTIFACT_DIR", artifactDir) :: bindings.entries)

theorem comesTo_runSuites (bindings : Dictionary String) (artifactDir : String) :
    (host.journaled.runSuites bindings artifactDir).ComesTo
      (Commands (host.suitesCommand bindings artifactDir)) :=
  host.comesTo_perform _

end Host

/-! ## Looking pull requests up -/

/-- At most one thing is looked up, and nothing changed. -/
def Act.Lookup (acts : List Act) : Prop := acts.length ≤ 1 ∧ ∀ act ∈ acts, act.Gets

theorem Act.lookup_nil : Act.Lookup [] := ⟨Nat.zero_le 1, nofun⟩

theorem Hub.lookup_fetchNote (hub : Hub) (host : Host σ) (path : String)
    (query : List (String × String)) (s : σ) :
    Act.Lookup (host.fetchNote (hub.request? "GET" path query) s) := by
  refine ⟨?_, fun _ => gets_of_note⟩
  unfold Host.fetchNote
  cases hub.request? "GET" path query with
  | none => exact Nat.zero_le 1
  | some => exact Nat.le_refl 1

theorem Hub.comesTo_fetch {α : Type} (hub : Hub) (host : Host σ) (codec : Codec α)
    (action path : String) (query : List (String × String)) :
    (ofSession (hub.fetch host.journaled.toWeb codec action path query)).ComesTo
      fun result acts => Act.Lookup acts ∧ (result.isOk = true → acts ≠ []) := by
  intro s before
  rw [run_ofSession, hub.journaled_fetch]
  refine ⟨_, _, _, rfl, hub.lookup_fetchNote host path query s, fun good => ?_⟩
  unfold Host.fetchNote
  cases made : hub.request? "GET" path query with
  | none =>
      have failed : ((hub.fetch host.toWeb codec action path query).run s).1 =
          .error (.hub action .request) := by
        unfold fetch send
        rw [exceptT_run_bind, ExceptT.run_mk, stateM_bind_apply, made]
        rfl
      rw [failed] at good
      cases good
  | some => exact List.cons_ne_nil _ _

namespace SuiteJob

variable (host : Host σ) (hub : Hub)

theorem comesTo_resolve (job : JobContext) :
    (job.resolve hub host.journaled.toWeb).ComesTo fun result acts =>
      Act.Lookup acts ∧ (result.isOk = true → acts ≠ []) := by
  unfold JobContext.resolve
  cases job.refs with
  | none => exact comesTo_fail ⟨Act.lookup_nil, nofun⟩
  | some refs =>
      refine comesTo_ofExcept_bind (fun _ _ => ⟨Act.lookup_nil, nofun⟩) fun pull _ => ?_
      have found : (ofSession (hub.pullRequest host.journaled.toWeb refs.org refs.repo
          pull.number)).ComesTo fun result acts =>
            Act.Lookup acts ∧ (result.isOk = true → acts ≠ []) := hub.comesTo_fetch host _ _ _ _
      refine (ComesTo.within
        (Q := fun result acts => Act.Lookup acts ∧ (result.isOk = true → acts ≠ [])) found
          fun result _ looked => by rwa [isOk_mapError]).bind (fun _ _ looked => looked)
            fun other acts looked => ?_
      exact comesTo_pure (by rwa [List.append_nil])

/-- There is nothing to look up for a job that tests no pull request. -/
theorem comesTo_pullUnderTest (job : JobContext) :
    (pullUnderTest? host.journaled hub job).ComesTo fun result acts => Act.Lookup acts ∧
      (job.isPeriodicOrRehearsal = true → acts = [] ∧ result.isOk = true) ∧
      (job.isPeriodicOrRehearsal = false → result.isOk = true → acts ≠ []) := by
  unfold pullUnderTest?
  split
  · next periodic =>
      exact comesTo_pure ⟨Act.lookup_nil, fun _ => ⟨rfl, rfl⟩,
        fun other => absurd periodic (Bool.not_eq_true _ ▸ other)⟩
  · next other =>
      refine (comesTo_resolve host hub job).map fun result acts looked =>
        ⟨looked.1, fun periodic => absurd periodic other, fun _ good => looked.2 ?_⟩
      cases result <;> exact good

/-- A lookup that fails means that nothing pairs. -/
theorem comesTo_infraPairing (pull : Option PullUnderTest) :
    (infraPairing host.journaled hub pull).ComesTo fun result acts =>
      Act.Lookup acts ∧ result.isOk = true := by
  unfold infraPairing
  cases pull with
  | none => exact comesTo_pure ⟨Act.lookup_nil, rfl⟩
  | some pull =>
      dsimp only
      split
      · intro s before
        refine ⟨_, _, _, host.journaled_isPaired hub infraRepo pull s before,
          hub.lookup_fetchNote host _ _ s, ?_⟩
        rw [Host.isPaired_run]
        split <;> rfl
      · exact comesTo_pure ⟨Act.lookup_nil, rfl⟩

end SuiteJob

/-! ## Patching bundles -/

/-- Files are written, a bundle is pulled or pushed, or something is looked up. -/
inductive Act.Patches : Act → Prop where
  | makes (path : String) (result : Except String Unit) : Patches (.madeDirectories path result)
  | writes (path : String) (content : List UInt8) (result : Except String Unit) :
      Patches (.wrote path content result)
  | runs {launch : Launch} (program : launch.command.program = "tkn") : Patches (.launched launch)
  | looks {act : Act} (gets : act.Gets) : Patches act

section Patching

variable (host : Host σ)

theorem only_writeFile (path : String) (content : List UInt8) :
    (Host.onFiles (host.journaled.writeFile path content)).Only Act.Patches := fun s _ =>
  ⟨_, _, _, rfl,
    List.forall_mem_singleton.mpr (.writes path content (host.writeFile path content s).1)⟩

theorem only_makeDirectories (path : String) :
    (Host.onFiles (host.journaled.makeDirectories path)).Only Act.Patches := fun s _ =>
  ⟨_, _, _, rfl, List.forall_mem_singleton.mpr (.makes path (host.makeDirectories path s).1)⟩

namespace BundlePatch

variable {host} {patch : BundlePatch} {selector : String} {acts : List Act}

theorem patches_of_pull {launch : Launch} {bundle kind name : String}
    (command : launch.command = pullCommand bundle kind name) : (Act.launched launch).Patches :=
  .runs (congrArg Command.program command)

theorem patches_of_push {launch : Launch} {bundle file : String}
    (command : launch.command = pushCommand bundle file) : (Act.launched launch).Patches :=
  .runs (congrArg Command.program command)

theorem Pushing.patches {bundle : String} {object : Yaml} {outcome : Except Failure Unit}
    (pushing : Pushing host bundle object outcome acts) : ∀ act ∈ acts, act.Patches := by
  cases pushing with
  | noRoom => exact nofun
  | noText => exact nofun
  | unwritten => exact List.forall_mem_singleton.mpr (.writes _ _ _)
  | refused _ command =>
      exact List.forall_mem_cons.mpr
        ⟨.writes _ _ _, List.forall_mem_singleton.mpr (patches_of_push command)⟩
  | accepted _ command =>
      exact List.forall_mem_cons.mpr
        ⟨.writes _ _ _, List.forall_mem_singleton.mpr (patches_of_push command)⟩

theorem Unprepared.patches {launches : List Launch} (failed : Unprepared patch selector launches) :
    ∀ launch ∈ launches, (Act.launched launch).Patches := by
  cases failed with
  | unselected => exact nofun
  | noPipeline _ command => exact List.forall_mem_singleton.mpr (patches_of_pull command)
  | notRetargeted _ command => exact List.forall_mem_singleton.mpr (patches_of_pull command)
  | noTask retargeted command =>
      exact List.forall_mem_cons.mpr ⟨patches_of_pull retargeted.command,
        List.forall_mem_singleton.mpr (patches_of_pull command)⟩
  | notReplaced retargeted command =>
      exact List.forall_mem_cons.mpr ⟨patches_of_pull retargeted.command,
        List.forall_mem_singleton.mpr (patches_of_pull command)⟩

theorem Prepared.patches (prepared : Prepared patch selector) :
    ∀ act ∈ prepared.pulls, act.Patches :=
  List.forall_mem_cons.mpr ⟨patches_of_pull prepared.command,
    List.forall_mem_singleton.mpr (patches_of_pull prepared.taskCommand)⟩

theorem Course.patches {outcome : Except Failure String}
    (course : Course host patch selector outcome acts) : ∀ act ∈ acts, act.Patches := by
  cases course with
  | unprepared failed => exact List.forall_mem_map.mpr failed.patches
  | taskUnpushed prepared task => exact List.forall_mem_append.mpr ⟨prepared.patches, task.patches⟩
  | pipelineUnpushed prepared task pipeline =>
      exact List.forall_mem_append.mpr
        ⟨prepared.patches, List.forall_mem_append.mpr ⟨task.patches, pipeline.patches⟩⟩
  | published prepared task pipeline =>
      exact List.forall_mem_append.mpr
        ⟨prepared.patches, List.forall_mem_append.mpr ⟨task.patches, pipeline.patches⟩⟩

/-- Nothing is done but to patch, and it goes well only if both bundles are pushed. -/
structure Publishes (patch : BundlePatch) (result : Except Failure String) (acts : List Act) :
    Prop where
  patches : ∀ act ∈ acts, act.Patches
  pushed : result.isOk = true → Pushed patch.taskBundle acts ∧ Pushed patch.pipelineBundle acts

theorem Course.publishes {outcome : Except Failure String}
    (course : Course host patch selector outcome acts) : patch.Publishes outcome acts := by
  refine ⟨course.patches, fun good => ?_⟩
  cases outcome with
  | error => cases good
  | ok bundle => exact course.ok_iff.mp (congrArg Except.ok course.eq_of_ok)

/-- What comes before may fail, and is to patch as well. -/
theorem comesTo_publishes_bind {α : Type} {head : Errand (σ × List Act) α}
    {next : α → Errand (σ × List Act) String} (only : head.Only Act.Patches)
    (tail : ∀ value, (next value).ComesTo patch.Publishes) :
    (head >>= next).ComesTo patch.Publishes :=
  ComesTo.bind only (fun _ _ each => ⟨each, nofun⟩) fun value _ each =>
    (tail value).mono fun _ _ known => ⟨List.forall_mem_append.mpr ⟨each, known.patches⟩,
      fun good => ⟨pushed_append.mpr (.inr (known.pushed good).1),
        pushed_append.mpr (.inr (known.pushed good).2)⟩⟩

end BundlePatch

theorem PatchSettings.only_fetchSelector (url : String) :
    (fetchSelector host.journaled.toWeb url).Only Act.Patches := by
  unfold fetchSelector
  refine host.comesTo_exchange_bind fun answer acts exchanged => ?_
  have each : ∀ act ∈ acts, act.Patches := by
    generalize made : Http.Request.make? "GET" url [] [("accept", "*/*")] [] = request
      at exchanged
    cases exchanged with
    | none => exact nofun
    | sent =>
        exact List.forall_mem_singleton.mpr
          (.looks ⟨_, _, rfl, Http.Request.method_of_make? made⟩)
  cases answer with
  | none => exact comesTo_ofExcept (by rwa [List.append_nil])
  | some answer =>
      dsimp only
      split
      · exact comesTo_ofExcept (by rwa [List.append_nil])
      · exact comesTo_pure (by rwa [List.append_nil])

theorem PatchSettings.only_writeCredentials (token home : String) :
    (writeCredentials host.journaled token home).Only Act.Patches := by
  unfold writeCredentials
  cases Base64.decode (Text.trim token.toList) with
  | none => exact only_ofExcept _
  | some config =>
      refine Only.bind (Only.within (only_makeDirectories host _) _) fun _ => ?_
      exact Only.within (only_writeFile host _ _) _

def PatchSettings.patchOf (settings : PatchSettings) (sha : String) : BundlePatch :=
  ⟨sha, settings.image, settings.pushRepo⟩

theorem PatchSettings.comesTo_run (settings : PatchSettings) (sha : String) :
    (settings.run host.journaled sha).ComesTo (settings.patchOf sha).Publishes := by
  have same : host.journaled.environment = host.environment := rfl
  have fails : ∀ text : String, (fail text : Errand (σ × List Act) String).ComesTo
      (settings.patchOf sha).Publishes := fun _ => comesTo_fail ⟨nofun, nofun⟩
  unfold run
  rw [same]
  split
  · exact fails _
  · split
    · exact fails _
    · cases host.environment.get? "HOME" with
      | none => exact fails _
      | some home =>
          refine BundlePatch.comesTo_publishes_bind (only_writeCredentials host _ _) fun _ => ?_
          refine BundlePatch.comesTo_publishes_bind (only_fetchSelector host _) fun selector => ?_
          exact (BundlePatch.comesTo_run host).mono fun _ _ course => course.publishes

end Patching

namespace SuiteJob

def needsBundle (job : JobContext) : Bool := job.refs.any fun refs => needsJavaBundle refs.repo

/-- The variables with the patched bundle among them, if the repository needs one. -/
def withBundle (settings : SuiteJob) (host : Host σ) (job : JobContext)
    (bindings : Dictionary String) : Errand σ (Dictionary String) :=
  if needsBundle job then do
    let commit ← Errand.ofExcept job.pull
    let bundle ← settings.patch.run host commit.sha
    return bindings.insert bundleVariable bundle
  else return bindings

/-- Bundles are patched only for the repositories that need them, and then both are pushed if all
goes well. -/
structure Bundling (settings : SuiteJob) (job : JobContext) (acts : List Act) (done : Bool) :
    Prop where
  patches : ∀ act ∈ acts, act.Patches
  spared : needsBundle job = false → acts = [] ∧ done = true
  pushed : needsBundle job = true → done = true → ∃ commit,
    job.pull = .ok commit ∧
      BundlePatch.Pushed (settings.patch.patchOf commit.sha).taskBundle acts ∧
      BundlePatch.Pushed (settings.patch.patchOf commit.sha).pipelineBundle acts

theorem comesTo_withBundle (settings : SuiteJob) (host : Host σ) (job : JobContext)
    (bindings : Dictionary String) :
    (settings.withBundle host.journaled job bindings).ComesTo fun result acts =>
      settings.Bundling job acts result.isOk := by
  unfold withBundle
  split
  · next needed =>
      have unspared : ∀ {P : Prop}, needsBundle job = false → P := fun spared =>
        nomatch needed.symm.trans spared
      refine comesTo_ofExcept_bind (fun _ _ => ⟨nofun, unspared, nofun⟩) fun commit known => ?_
      refine (settings.patch.comesTo_run host commit.sha).bind
        (fun _ _ published => ⟨published.patches, unspared, nofun⟩) fun bundle acts published => ?_
      refine comesTo_pure ?_
      rw [List.append_nil]
      exact ⟨published.patches, unspared, fun _ _ => ⟨commit, known, published.pushed rfl⟩⟩
  · next spared => exact comesTo_pure ⟨nofun, fun _ => ⟨rfl, rfl⟩, fun needed => absurd needed spared⟩

theorem comesTo_bindings (settings : SuiteJob) (host : Host σ) (job : JobContext)
    (pull : Option PullUnderTest) (pairing : Bool) :
    (settings.bindings host.journaled job pull pairing).ComesTo fun result acts =>
      settings.Bundling job acts result.isOk := by
  have bundled := comesTo_withBundle settings host job
    (job.bindings settings.componentImage pull pairing)
  unfold SuiteJob.bindings
  cases job.variablesNotice? with
  | none => exact bundled
  | some notice => exact comesTo_tell_bind host notice bundled

end SuiteJob

/-! ## Reporting -/

def Act.Posts (act : Act) : Prop :=
  ∃ request reply, act = .fetched request reply ∧ request.method = "POST"

theorem Act.Gets.not_posts {act : Act} (gets : act.Gets) : ¬act.Posts := by
  rintro ⟨request, reply, rfl, posts⟩
  obtain ⟨_, _, same, method⟩ := gets
  cases same
  exact absurd (method.symm.trans posts) (by decide)

theorem Act.Patches.not_posts {act : Act} (patches : act.Patches) : ¬act.Posts := by
  cases patches with
  | looks gets => exact gets.not_posts
  | _ => nofun

namespace Host

theorem Searching.not_posts {programs : List String} {acts : List Act} {found : Bool}
    (searching : Searching programs acts found) {act : Act} (member : act ∈ acts) :
    ¬act.Posts := by
  induction searching with
  | found => cases member
  | missing =>
      cases List.mem_singleton.mp member
      nofun
  | goesOn _ _ _ ih =>
      rcases List.mem_cons.mp member with rfl | others
      · nofun
      · exact ih others

theorem Checking.not_posts {env : Environment} {acts : List Act} {found : Bool}
    (checking : Checking env acts found) {act : Act} (member : act ∈ acts) : ¬act.Posts := by
  cases checking with
  | unset => cases member
  | searched _ searching => exact searching.not_posts member

theorem Installing.not_posts {host : Host σ} {bindings : Dictionary String} {acts : List Act}
    {done : Bool} (installing : Installing host bindings acts done) {act : Act}
    (member : act ∈ acts) : ¬act.Posts := by
  cases installing with
  | noRoom => cases member
  | notCloned =>
      cases List.mem_singleton.mp member
      nofun
  | cloned =>
      rcases List.mem_pair.mp member with rfl | rfl <;> nofun

theorem Bootstrapping.not_posts {host : Host σ} {bindings : Dictionary String} {acts : List Act}
    {done : Bool} (bootstrapping : Bootstrapping host bindings acts done) {act : Act}
    (member : act ∈ acts) : ¬act.Posts := by
  cases bootstrapping with
  | once installed => exact installed.not_posts member
  | again failed second =>
      rcases List.mem_append.mp member with first | more
      · exact failed.not_posts first
      · exact second.not_posts more

theorem Registering.not_posts {acts : List Act} {done : Bool} (registering : Registering acts done)
    {act : Act} (member : act ∈ acts) : ¬act.Posts := by
  cases registering with
  | unasked => cases member
  | asked _ asks =>
      rcases List.mem_cons.mp member with rfl | later
      · nofun
      · obtain ⟨_, _, rfl⟩ := asks act later
        nofun

end Host

theorem Http.isHeaderValue_append (first second : String) :
    isHeaderValue (first ++ second) = (isHeaderValue first && isHeaderValue second) := by
  unfold isHeaderValue
  rw [String.toList_append, List.all_append]

theorem Http.isHeaderValue_hex (bytes : List UInt8) : isHeaderValue (Digest.hex bytes) = true := by
  have digit : ∀ n < 16, (decide (Nat.digitChar n = '\t') ||
      (decide (0x20 ≤ (Nat.digitChar n).toNat) && decide ((Nat.digitChar n).toNat ≠ 0x7f))) =
        true := by decide
  unfold isHeaderValue Digest.hex
  rw [String.toList_ofList, List.all_eq_true]
  intro c member
  obtain ⟨byte, _, member⟩ := List.mem_flatMap.mp member
  rcases List.mem_pair.mp member with rfl | rfl <;> exact digit _ (Nat.mod_lt _ (by decide))

namespace Webhook

def request? (webhook : Webhook) (salt target : String) : Option Http.Request :=
  Http.Request.make? "POST" target []
    [("content-type", "application/json"), ("x-hub-signature-256", signature salt webhook.body),
      ("accept", "*/*")] webhook.body

/-- A webhook can be posted to whatever is a locator. -/
theorem request?_eq_none {webhook : Webhook} {salt target : String}
    (unsendable : webhook.request? salt target = none) :
    ∃ fault, Url.read target.toList = .error fault := by
  have sendable : Http.isHeaderValue (signature salt webhook.body) = true := by
    unfold signature
    rw [Http.isHeaderValue_append, Http.isHeaderValue_hex]
    rfl
  have others : Http.isHeaderValue "application/json" = true ∧ Http.isHeaderValue "*/*" = true := by
    decide
  unfold request? Http.Request.make? at unsendable
  cases read : Url.read target.toList with
  | error fault => exact ⟨fault, rfl⟩
  | ok url =>
      rw [read] at unsendable
      dsimp only at unsendable
      rw [List.all_cons, List.all_cons, List.all_cons, List.all_nil, others.1, sendable,
        others.2] at unsendable
      cases unsendable

end Webhook

/-- The receiver took what it was sent. -/
def Http.Reply.accepted (reply : Http.Reply) : Bool :=
  reply.answer?.any fun answer => Http.isSuccessStatus answer.1

/-- A job that reports posts its webhook once, if the target is a locator at all. -/
inductive Reporting (settings : WebhookSettings) (executable : Except String String)
    (job : JobContext) : List Act → Bool → Prop where
  | nameless {fault : String} (failed : executable = .error fault) :
      Reporting settings executable job [] false
  | silent {path : String} {notice : Notice} (known : executable = .ok path)
      (spared : Webhook.forJob job path = .error notice) :
      Reporting settings executable job [] true
  | unsendable {path : String} {webhook : Webhook} {fault : UrlError}
      (known : executable = .ok path) (due : Webhook.forJob job path = .ok webhook)
      (malformed : Url.read settings.target.toList = .error fault) :
      Reporting settings executable job [] false
  | posted {path : String} {webhook : Webhook} {request : Http.Request} {reply : Http.Reply}
      (known : executable = .ok path) (due : Webhook.forJob job path = .ok webhook)
      (made : webhook.request? settings.salt settings.target = some request) :
      Reporting settings executable job [.fetched request reply] reply.accepted

/-- The post is what a webhook comes to. -/
theorem Webhook.comesTo_send (webhook : Webhook) (host : Host σ) (salt target : String) :
    (webhook.send host.journaled.toWeb salt target).ComesTo fun result acts =>
      ∃ answer, Host.Exchanged (webhook.request? salt target) answer acts ∧
        result.isOk = answer.any fun answer => Http.isSuccessStatus answer.1 := by
  unfold send
  refine host.comesTo_exchange_bind fun answer acts exchanged => ?_
  cases answer with
  | none => exact comesTo_ofExcept ⟨none, by rwa [List.append_nil], rfl⟩
  | some answer =>
      dsimp only
      split
      · next accepted =>
          exact comesTo_pure ⟨some answer, by rwa [List.append_nil], accepted.symm⟩
      · next refused =>
          refine comesTo_fail ⟨some answer, by rwa [List.append_nil], ?_⟩
          exact (Bool.eq_false_iff.mpr refused).symm

theorem WebhookSettings.comesTo_report (settings : WebhookSettings) (host : Host σ)
    (job : JobContext) :
    (settings.report host.journaled job).ComesTo fun result acts =>
      Reporting settings host.executable job acts result.isOk := by
  have same : host.journaled.executable = host.executable := rfl
  have told : ∀ notice, (host.journaled.tell notice).ComesTo fun result acts =>
      result.isOk = true ∧ acts = [] := fun notice => comesTo_tell host notice ⟨rfl, rfl⟩
  unfold report
  rw [same]
  generalize host.executable = executable
  cases executable with
  | error fault => exact comesTo_ofExcept (.nameless rfl)
  | ok path =>
      refine comesTo_ofExcept_bind nofun fun named found => ?_
      cases found
      cases due : Webhook.forJob job path with
      | error notice =>
          refine (told notice).mono fun result acts said => ?_
          rw [said.1, said.2]
          exact .silent rfl due
      | ok webhook =>
          have exchanged : ∀ {answer acts}, Host.Exchanged (webhook.request? settings.salt
              settings.target) answer acts → Reporting settings (.ok path) job acts
                (answer.any fun answer => Http.isSuccessStatus answer.1) := by
            intro answer acts exchanged
            generalize made : webhook.request? settings.salt settings.target = request
              at exchanged
            cases exchanged with
            | none =>
                obtain ⟨_, malformed⟩ := Webhook.request?_eq_none made
                exact .unsendable rfl due malformed
            | sent => exact .posted rfl due made
          refine (webhook.comesTo_send host settings.salt settings.target).bind
            (fun failure acts sent => ?_) fun response acts sent => ?_
          · obtain ⟨answer, sent, ended⟩ := sent
            have reported := exchanged sent
            rw [← ended] at reported
            exact reported
          · obtain ⟨answer, sent, ended⟩ := sent
            refine (told _).mono fun result more said => ?_
            rw [said.1, said.2, List.append_nil]
            have reported := exchanged sent
            rw [← ended] at reported
            exact reported

end ClusterHarness
