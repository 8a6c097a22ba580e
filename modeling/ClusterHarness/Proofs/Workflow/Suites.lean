import ClusterHarness.Proofs.Workflow.Steps

/-!
# What a job of the suites does, step by step

The run of a job is cut into its steps.  Each of them but two ends the run if it fails: the suites,
whose failure is kept until the run has been reported, and the report, whose failure is only said.
What holds of all runs is shown by induction on the steps that are left.
-/

namespace ClusterHarness

open Errand

variable {σ α : Type}

def fault? : Except Failure α → Option Failure
  | .ok _ => none
  | .error failure => some failure

namespace SuiteJob

/-! ## Steps -/

inductive Step where
  | job
  | preflight
  | pull
  | pairing
  | bundle
  | bootstrap
  | registration
  | suites
  | webhook
  deriving DecidableEq, Repr

namespace Step

def all : List Step :=
  [.job, .preflight, .pull, .pairing, .bundle, .bootstrap, .registration, .suites, .webhook]

def fatal : Step → Bool
  | .suites | .webhook => false
  | _ => true

end Step

/-- What the steps so far have brought, with the failures that do not end a run. -/
structure Progress where
  job : JobContext
  pull : Option PullUnderTest
  pairing : Bool
  bindings : Dictionary String
  /-- How the suites ended. -/
  outcome : Except Failure Unit
  /-- How the report ended. -/
  report : Except Failure Unit

namespace Progress

def start : Progress where
  job := ⟨"", "", "", none, "", "", "", "", false⟩
  pull := none
  pairing := false
  bindings := Dictionary.empty
  outcome := .ok ()
  report := .ok ()

/-- The failure of a step that does not end a run. -/
def held (p : Progress) : Step → Option Failure
  | .suites => fault? p.outcome
  | .webhook => fault? p.report
  | _ => none

def Knows (p : Progress) (env : Environment) : Prop := JobContext.ofEnvironment env = .ok p.job

theorem held_of_fatal {step : Step} (fatal : step.fatal = true) (p : Progress) :
    p.held step = none := by
  cases step with
  | suites => cases fatal
  | webhook => cases fatal
  | _ => rfl

end Progress

def perform (settings : SuiteJob) (host : Host σ) (p : Progress) : Step → Errand σ Progress
  | .job => do
    let job ← Errand.ofExcept (JobContext.ofEnvironment host.environment)
    return { p with job }
  | .preflight => do
    host.preflight
    return p
  | .pull => do
    let pull ← pullUnderTest? host (Hub.upstream host.environment) p.job
    return { p with pull }
  | .pairing => do
    let pairing ← infraPairing host (Hub.upstream host.environment) p.pull
    return { p with pairing }
  | .bundle => do
    let bindings ← settings.bindings host p.job p.pull p.pairing
    return { p with bindings }
  | .bootstrap => do
    host.bootstrapWithRetry (p.job.installerVariables p.bindings)
    return p
  | .registration => do
    host.registerDefaultUser
    return p
  | .suites => do
    let outcome ← (host.runSuites p.bindings p.job.artifactDir).attempt
    return { p with outcome }
  | .webhook => do
    let report ← (settings.webhook.report host p.job).attempt
    match report with
    | .ok () => return { p with report }
    | .error failure =>
      host.tell (.warning ("Error when sending webhook: " ++ failure.text))
      return { p with report }

def finish (host : Host σ) (p : Progress) : Errand σ Unit :=
  match p.outcome with
  | .ok () => return ()
  | .error failure => do
    host.tell (.critical failure.text)
    Errand.fail "Error when running e2e tests, see the log above for more details"

/-- A run takes the steps one after the other. -/
theorem run_eq (settings : SuiteJob) (host : Host σ) :
    settings.run host =
      Step.all.foldlM (settings.perform host) Progress.start >>= finish host := by
  unfold run
  simp only [Step.all, List.foldlM_cons, List.foldlM_nil, perform, bind_assoc, pure_bind, finish,
    report]
  -- what is left differs in how the report's failure is said
  refine bind_congr fun job => bind_congr fun _ => bind_congr fun pull => bind_congr fun pairing =>
    bind_congr fun bindings => bind_congr fun _ => bind_congr fun _ => bind_congr fun outcome =>
      bind_congr fun sent => ?_
  cases sent with
  | ok => cases outcome <;> rfl
  | error failure => cases outcome <;> simp only [bind_assoc, pure_bind]

/-! ## What a step comes to -/

/-- What a step may do, and what may go wrong with it. -/
inductive Deed (settings : SuiteJob) (host : Host σ) : Step → List Act → Option Failure → Prop where
  | job : Deed settings host .job [] (fault? (JobContext.ofEnvironment host.environment))
  | preflight {acts : List Act} {failure : Option Failure}
      (checking : Host.Checking host.environment acts failure.isNone) :
      Deed settings host .preflight acts failure
  | pull {job : JobContext} {acts : List Act} {failure : Option Failure}
      (known : JobContext.ofEnvironment host.environment = .ok job) (lookup : Act.Lookup acts)
      (spared : job.isPeriodicOrRehearsal = true → acts = [] ∧ failure.isNone = true)
      (looked : job.isPeriodicOrRehearsal = false → failure.isNone = true → acts ≠ []) :
      Deed settings host .pull acts failure
  | pairing {acts : List Act} (lookup : Act.Lookup acts) : Deed settings host .pairing acts none
  | bundle {job : JobContext} {acts : List Act} {failure : Option Failure}
      (known : JobContext.ofEnvironment host.environment = .ok job)
      (bundling : settings.Bundling job acts failure.isNone) :
      Deed settings host .bundle acts failure
  | bootstrap {bindings : Dictionary String} {acts : List Act} {failure : Option Failure}
      (bootstrapping : host.Bootstrapping bindings acts failure.isNone) :
      Deed settings host .bootstrap acts failure
  | registration {acts : List Act} {failure : Option Failure}
      (registering : Host.Registering acts failure.isNone) :
      Deed settings host .registration acts failure
  | suites {bindings : Dictionary String} {artifactDir : String} {launch : Launch}
      {failure : Option Failure}
      (command : launch.command = host.suitesCommand bindings artifactDir)
      (ended : failure.isNone = launch.succeeded) :
      Deed settings host .suites [.launched launch] failure
  | webhook {job : JobContext} {acts : List Act} {failure : Option Failure}
      (known : JobContext.ofEnvironment host.environment = .ok job)
      (reporting : Reporting settings.webhook host.executable job acts failure.isNone) :
      Deed settings host .webhook acts failure

def failureOf (step : Step) : Except Failure Progress → Option Failure
  | .ok q => q.held step
  | .error failure => some failure

/-- What is known of a step that was taken. -/
structure Taken (settings : SuiteJob) (host : Host σ) (p : Progress) (step : Step)
    (result : Except Failure Progress) (acts : List Act) : Prop where
  deed : settings.Deed host step acts (failureOf step result)
  knows : ∀ q, result = .ok q → q.Knows host.environment
  fatal : ∀ failure, result = .error failure → step.fatal = true
  kept : ∀ q, result = .ok q → step ≠ .suites → q.outcome = p.outcome

variable {settings : SuiteJob} {host : Host σ} {p : Progress} {step : Step}

/-- A step whose failure ends the run changes what is known by its value. -/
theorem comesTo_fatal {errand : Errand (σ × List Act) α}
    {P : Except Failure α → List Act → Prop} (comes : errand.ComesTo P) (next : α → Progress)
    (fatal : step.fatal = true)
    (deed : ∀ result acts, P result acts → settings.Deed host step acts (fault? result))
    (knows : ∀ value acts, P (.ok value) acts → (next value).Knows host.environment)
    (kept : ∀ value, (next value).outcome = p.outcome) :
    (errand >>= fun value => return next value).ComesTo (settings.Taken host p step) := by
  refine comes.bind (fun failure acts known => ?_) fun value acts known => ?_
  · exact ⟨deed _ acts known, (fun _ same => nomatch same), fun _ _ => fatal,
      (fun _ same => nomatch same)⟩
  · have whole := deed _ acts known
    refine comesTo_pure ⟨?_, ?_, nofun, ?_⟩
    · rw [List.append_nil, failureOf, Progress.held_of_fatal fatal]
      exact whole
    · intro q same
      cases same
      exact knows value acts known
    · intro q same _
      cases same
      exact kept value

theorem isNone_fault? (result : Except Failure α) : (fault? result).isNone = result.isOk := by
  cases result <;> rfl

/-- Whichever step is taken, this is known of it. -/
theorem comesTo_perform (settings : SuiteJob) (host : Host σ) (p : Progress) (step : Step)
    (ready : step = .job ∨ p.Knows host.environment) :
    (settings.perform host.journaled p step).ComesTo (settings.Taken host p step) := by
  cases step with
  | job =>
      refine comesTo_fatal (comesTo_ofExcept (P := fun result acts =>
        result = JobContext.ofEnvironment host.environment ∧ acts = []) ⟨rfl, rfl⟩)
        (fun job => { p with job }) rfl ?_ (fun _ _ known => known.1.symm) fun _ => rfl
      rintro _ _ ⟨rfl, rfl⟩
      exact .job
  | preflight =>
      have knows := ready.resolve_left nofun
      exact comesTo_fatal host.comesTo_preflight (fun _ => p) rfl
        (fun result acts checking => .preflight (by rwa [isNone_fault?])) (fun _ _ _ => knows)
        fun _ => rfl
  | pull =>
      have knows := ready.resolve_left nofun
      exact comesTo_fatal (comesTo_pullUnderTest host _ p.job) (fun pull => { p with pull }) rfl
        (fun result acts looked => .pull knows looked.1
          (by rw [isNone_fault?]; exact looked.2.1) (by rw [isNone_fault?]; exact looked.2.2))
        (fun _ _ _ => knows) fun _ => rfl
  | pairing =>
      have knows := ready.resolve_left nofun
      refine comesTo_fatal (comesTo_infraPairing host _ p.pull) (fun pairing => { p with pairing })
        rfl (fun result acts looked => ?_) (fun _ _ _ => knows) fun _ => rfl
      cases result with
      | ok => exact .pairing looked.1
      | error => cases looked.2
  | bundle =>
      have knows := ready.resolve_left nofun
      exact comesTo_fatal (comesTo_bindings settings host p.job p.pull p.pairing)
        (fun bindings => { p with bindings }) rfl
        (fun result acts bundled => .bundle knows (by rw [isNone_fault?]; exact bundled))
        (fun _ _ _ => knows) fun _ => rfl
  | bootstrap =>
      have knows := ready.resolve_left nofun
      exact comesTo_fatal (host.comesTo_bootstrapWithRetry _) (fun _ => p) rfl
        (fun result acts booted => .bootstrap (by rw [isNone_fault?]; exact booted))
        (fun _ _ _ => knows) fun _ => rfl
  | registration =>
      have knows := ready.resolve_left nofun
      exact comesTo_fatal host.comesTo_registerDefaultUser (fun _ => p) rfl
        (fun result acts registered => .registration (by rw [isNone_fault?]; exact registered))
        (fun _ _ _ => knows) fun _ => rfl
  | suites =>
      have knows := ready.resolve_left nofun
      refine (host.comesTo_runSuites p.bindings p.job.artifactDir).attempt_bind
        fun outcome acts ran => ?_
      obtain ⟨launch, rfl, command, ended⟩ := ran
      refine comesTo_pure ⟨.suites command ?_, ?_, nofun, ?_⟩
      · rw [← ended]
        exact isNone_fault? outcome
      · intro q same
        cases same
        exact knows
      · intro q _ other
        exact absurd rfl other
  | webhook =>
      have knows := ready.resolve_left nofun
      refine (settings.webhook.comesTo_report host p.job).attempt_bind
        fun report acts reported => ?_
      rw [← isNone_fault?] at reported
      have taken : settings.Taken host p .webhook (.ok { p with report }) (acts ++ []) := by
        refine ⟨?_, ?_, nofun, ?_⟩
        · rw [List.append_nil]
          exact .webhook knows reported
        · intro q same
          cases same
          exact knows
        · intro q same _
          cases same
          rfl
      cases report with
      | ok => exact comesTo_pure taken
      | error failure => exact comesTo_tell_bind host _ (comesTo_pure taken)

/-! ## Runs -/

/-- A step that was taken: what it did and what went wrong. -/
structure Stride where
  step : Step
  acts : List Act
  failure : Option Failure

/-- The steps that are taken of those that are left, up to one that fails and ends the run. -/
def stridesFrom (settings : SuiteJob) (host : Host σ) :
    List Step → Progress → σ × List Act → List Stride
  | [], _, _ => []
  | step :: rest, p, s =>
    match (settings.perform host.journaled p step).run s with
    | (.ok q, t) => ⟨step, t.2.drop s.2.length, q.held step⟩ :: stridesFrom settings host rest q t
    | (.error failure, t) => [⟨step, t.2.drop s.2.length, some failure⟩]

/-- What the steps that are left may come to: each is taken once those before it have not ended the
run. -/
inductive Course (settings : SuiteJob) (host : Host σ) :
    List Step → Progress → List Stride → Except Failure Progress → Prop where
  | done (p : Progress) : Course settings host [] p [] (.ok p)
  | ends {step : Step} {p : Progress} {failure : Failure} {acts : List Act}
      (taken : settings.Taken host p step (.error failure) acts) (rest : List Step) :
      Course settings host (step :: rest) p [⟨step, acts, some failure⟩] (.error failure)
  | goesOn {step : Step} {rest : List Step} {p q : Progress} {acts : List Act}
      {strides : List Stride} {result : Except Failure Progress}
      (taken : settings.Taken host p step (.ok q) acts)
      (others : Course settings host rest q strides result) :
      Course settings host (step :: rest) p (⟨step, acts, q.held step⟩ :: strides) result

/-- The steps that are left do what their strides say. -/
theorem exists_course (settings : SuiteJob) (host : Host σ) (steps : List Step) (p : Progress)
    (ready : steps.head? = some .job ∨ p.Knows host.environment) (s : σ) (before : List Act) :
    ∃ result t,
      (steps.foldlM (settings.perform host.journaled) p).run (s, before) =
        (result, (t, before ++
          (settings.stridesFrom host steps p (s, before)).flatMap Stride.acts)) ∧
      settings.Course host steps p (settings.stridesFrom host steps p (s, before)) result := by
  induction steps generalizing p s before with
  | nil => exact ⟨.ok p, s, by rw [stridesFrom, List.flatMap_nil, List.append_nil]; rfl, .done p⟩
  | cons step rest ih =>
      have first : step = .job ∨ p.Knows host.environment := ready.imp_left Option.some.inj
      obtain ⟨result, t, acts, ran, taken⟩ := settings.comesTo_perform host p step first s before
      rw [List.foldlM_cons, exceptT_run_bind, stridesFrom, ran]
      have own : (before ++ acts).drop before.length = acts := List.drop_left
      cases result with
      | error failure =>
          dsimp only
          rw [own]
          exact ⟨_, t, by rw [List.flatMap_singleton], .ends taken rest⟩
      | ok q =>
          obtain ⟨result, u, ranOn, others⟩ := ih q (Or.inr (taken.knows q rfl)) t (before ++ acts)
          dsimp only
          rw [own]
          refine ⟨result, u, ?_, .goesOn taken others⟩
          rw [ranOn, List.flatMap_cons, List.append_assoc]

namespace Course

variable {steps : List Step} {strides : List Stride} {result : Except Failure Progress}

/-- The steps that are taken come first. -/
theorem isPrefix (course : settings.Course host steps p strides result) :
    strides.map Stride.step <+: steps := by
  induction course with
  | done => exact List.prefix_rfl
  | ends _ rest => exact List.prefix_append [_] rest
  | goesOn _ _ ih => exact List.cons_prefix_cons.mpr ⟨rfl, ih⟩

theorem deeds (course : settings.Course host steps p strides result) :
    ∀ stride ∈ strides, settings.Deed host stride.step stride.acts stride.failure := by
  induction course with
  | done => exact List.forall_mem_nil _
  | ends taken => exact List.forall_mem_singleton.mpr taken.deed
  | goesOn taken _ ih => exact List.forall_mem_cons.mpr ⟨taken.deed, ih⟩

/-- No step follows a fatal one that failed. -/
theorem passed (course : settings.Course host steps p strides result) :
    ∀ stride ∈ strides.dropLast, stride.step.fatal = true → stride.failure = none := by
  induction course with
  | done => exact List.forall_mem_nil _
  | ends => exact List.forall_mem_nil _
  | @goesOn _ _ _ q _ strides _ _ _ ih =>
      cases strides with
      | nil => exact List.forall_mem_nil _
      | cons next rest =>
          refine List.forall_mem_cons.mpr ⟨?_, ih⟩
          exact fun fatal => Progress.held_of_fatal fatal q

/-- A course fails with the step it ends with. -/
theorem of_error {failure : Failure}
    (course : settings.Course host steps p strides (.error failure)) :
    ∃ before acts step, strides = before ++ [⟨step, acts, some failure⟩] ∧ step.fatal = true := by
  generalize same : (.error failure : Except Failure Progress) = result at course
  induction course with
  | done => cases same
  | ends taken =>
      cases same
      exact ⟨[], _, _, rfl, taken.fatal _ rfl⟩
  | goesOn _ _ ih =>
      obtain ⟨before, acts, step, rfl, fatal⟩ := ih same
      exact ⟨_ :: before, acts, step, rfl, fatal⟩

/-- A course that goes well takes all steps. -/
theorem of_ok {q : Progress} (course : settings.Course host steps p strides (.ok q)) :
    strides.map Stride.step = steps ∧
      ∀ stride ∈ strides, stride.step.fatal = true → stride.failure = none := by
  generalize same : (.ok q : Except Failure Progress) = result at course
  induction course with
  | done => exact ⟨rfl, List.forall_mem_nil _⟩
  | ends => cases same
  | @goesOn step _ _ next _ _ _ _ _ ih =>
      obtain ⟨every, passed⟩ := ih same
      refine ⟨congrArg (List.cons step) every, List.forall_mem_cons.mpr ⟨?_, passed⟩⟩
      exact fun fatal => Progress.held_of_fatal fatal next

/-- Only the suites have an outcome. -/
theorem outcome_eq {q : Progress} (course : settings.Course host steps p strides (.ok q))
    (without : .suites ∉ steps) : q.outcome = p.outcome := by
  generalize same : (.ok q : Except Failure Progress) = result at course
  induction course with
  | done =>
      cases same
      rfl
  | ends => cases same
  | goesOn taken _ ih =>
      obtain ⟨other, others⟩ := List.ne_and_not_mem_of_not_mem_cons without
      exact (ih others same).trans (taken.kept _ rfl other.symm)

/-- The failure of the suites is kept to the end. -/
theorem failure_of_suites {q : Progress}
    (course : settings.Course host steps p strides (.ok q)) (distinct : steps.Nodup) :
    ∀ stride ∈ strides, stride.step = .suites → stride.failure = fault? q.outcome := by
  generalize same : (.ok q : Except Failure Progress) = result at course
  induction course with
  | done => exact List.forall_mem_nil _
  | ends => cases same
  | goesOn taken others ih =>
      obtain ⟨fresh, rest⟩ := List.nodup_cons.mp distinct
      refine List.forall_mem_cons.mpr ⟨fun named => ?_, ih rest same⟩
      cases named
      cases same
      rw [others.outcome_eq fresh]
      rfl

end Course

/-! ## Posts -/

/-- No other step posts anything. -/
theorem Deed.eq_webhook {acts : List Act} {failure : Option Failure}
    (deed : settings.Deed host step acts failure) {act : Act} (member : act ∈ acts)
    (posts : act.Posts) : step = .webhook := by
  cases deed with
  | job => cases member
  | preflight checking => exact absurd posts (checking.not_posts member)
  | pull _ lookup => exact absurd posts (lookup.2 act member).not_posts
  | pairing lookup => exact absurd posts (lookup.2 act member).not_posts
  | bundle _ bundling => exact absurd posts (bundling.patches act member).not_posts
  | bootstrap bootstrapping => exact absurd posts (bootstrapping.not_posts member)
  | registration registering => exact absurd posts (registering.not_posts member)
  | suites =>
      cases List.mem_singleton.mp member
      exact absurd posts nofun
  | webhook => rfl

/-- At most one thing is done to report. -/
theorem Deed.length_le_one {acts : List Act} {failure : Option Failure}
    (deed : settings.Deed host .webhook acts failure) : acts.length ≤ 1 := by
  cases deed with
  | webhook _ reporting =>
      generalize failure.isNone = passed at reporting
      cases reporting with
      | nameless => exact Nat.zero_le 1
      | silent => exact Nat.zero_le 1
      | unsendable => exact Nat.zero_le 1
      | posted => exact Nat.le_refl 1

/-- The suites have been run. -/
def RanSuites (host : Host σ) (acts : List Act) : Prop :=
  ∃ launch bindings artifactDir, .launched launch ∈ acts ∧
    launch.command = host.suitesCommand bindings artifactDir

section Posts

variable {strides : List Stride}

theorem ranSuites_of_mem
    (deeds : ∀ stride ∈ strides, settings.Deed host stride.step stride.acts stride.failure)
    (member : .suites ∈ strides.map Stride.step) :
    RanSuites host (strides.flatMap Stride.acts) := by
  obtain ⟨⟨step, acts, failure⟩, taken, same⟩ := List.mem_map.mp member
  cases same
  have deed : settings.Deed host .suites acts failure := deeds _ taken
  cases deed with
  | suites command =>
      exact ⟨_, _, _, List.mem_flatMap.mpr ⟨_, taken, List.mem_singleton_self _⟩, command⟩

/-- Nothing is posted but by the last step, once and after the suites were run. -/
theorem posts_once
    (order : strides.map Stride.step <+: Step.all)
    (deeds : ∀ stride ∈ strides, settings.Deed host stride.step stride.acts stride.failure)
    {before after : List Act} {act : Act}
    (parts : strides.flatMap Stride.acts = before ++ act :: after) (posts : act.Posts) :
    RanSuites host before ∧ ∀ other ∈ before ++ after, ¬other.Posts := by
  have listed : act ∈ strides.flatMap Stride.acts := parts ▸ by simp
  obtain ⟨stride, taken, member⟩ := List.mem_flatMap.mp listed
  have reported : .webhook ∈ strides.map Stride.step :=
    List.mem_map.mpr ⟨stride, taken, (deeds stride taken).eq_webhook member posts⟩
  have complete : strides.map Stride.step = Step.all.dropLast ++ [.webhook] := by
    have cut : ∀ n ≤ 9, .webhook ∈ Step.all.take n →
        Step.all.take n = Step.all.dropLast ++ [.webhook] := by decide
    rw [List.prefix_iff_eq_take.mp order] at reported ⊢
    exact cut _ order.length_le reported
  obtain ⟨earlier, last, rfl, steps, lastStep⟩ := List.map_eq_append_iff.mp complete
  obtain ⟨report, rfl, named⟩ := List.map_eq_singleton_iff.mp lastStep
  have silent : ∀ other ∈ earlier.flatMap Stride.acts, ¬other.Posts := by
    intro other inside posts
    obtain ⟨stride, taken, member⟩ := List.mem_flatMap.mp inside
    have known := deeds stride (List.mem_append_left _ taken)
    have early : stride.step ∈ Step.all.dropLast := steps ▸ List.mem_map_of_mem taken
    rw [known.eq_webhook member posts] at early
    exact absurd early (by decide)
  have short : report.acts.length ≤ 1 := by
    have known := deeds report (List.mem_append_right _ (List.mem_singleton_self report))
    rw [named] at known
    exact known.length_le_one
  rw [List.flatMap_append, List.flatMap_singleton] at parts
  rcases append_eq_append_cons parts with ⟨more, inside⟩ | ⟨more, rfl, own⟩
  · exact absurd posts (silent act (inside ▸ by simp))
  · have lengths := congrArg List.length own
    rw [List.length_append, List.length_cons] at lengths
    obtain rfl : more = [] := List.length_eq_zero_iff.mp (by omega)
    obtain rfl : after = [] := List.length_eq_zero_iff.mp (by omega)
    rw [List.append_nil, List.append_nil]
    have ran := ranSuites_of_mem (fun stride taken => deeds stride (List.mem_append_left _ taken))
      (steps ▸ by decide : .suites ∈ earlier.map Stride.step)
    exact ⟨ran, silent⟩

end Posts

/-! ## Whole runs -/

def result (settings : SuiteJob) (host : Host σ) (s : σ) : Except Failure Unit :=
  ((settings.run host.journaled).run (s, [])).1

def acts (settings : SuiteJob) (host : Host σ) (s : σ) : List Act :=
  ((settings.run host.journaled).run (s, [])).2.2

def strides (settings : SuiteJob) (host : Host σ) (s : σ) : List Stride :=
  settings.stridesFrom host Step.all Progress.start (s, [])

theorem run_finish (host : Host σ) (p : Progress) (s : σ) (acts : List Act) :
    ∃ t, (finish host.journaled p).run (s, acts) =
      (if p.outcome.isOk then .ok () else .error (.ofText
        "Error when running e2e tests, see the log above for more details"), (t, acts)) := by
  unfold finish
  cases p.outcome with
  | ok => exact ⟨s, rfl⟩
  | error failure => exact ⟨_, host.journaled_tell_bind _ _ s acts⟩

/-- A job does what its steps do, and its result is that of its steps and of the suites. -/
theorem exists_course_run (settings : SuiteJob) (host : Host σ) (s : σ) :
    ∃ ended, settings.Course host Step.all Progress.start (settings.strides host s) ended ∧
      settings.acts host s = (settings.strides host s).flatMap Stride.acts ∧
      (settings.result host s = .ok () ↔ ∃ q, ended = .ok q ∧ q.outcome.isOk = true) := by
  obtain ⟨ended, t, ran, course⟩ :=
    settings.exists_course host Step.all Progress.start (Or.inl rfl) s []
  refine ⟨ended, course, ?_⟩
  unfold acts result
  rw [run_eq, exceptT_run_bind, ran]
  cases ended with
  | error failure => exact ⟨rfl, (fun same => nomatch same), fun ⟨_, same, _⟩ => nomatch same⟩
  | ok q =>
      obtain ⟨u, finished⟩ :=
        run_finish host q t ([] ++ (settings.strides host s).flatMap Stride.acts)
      dsimp only
      rw [strides] at finished
      rw [finished]
      refine ⟨rfl, ?_⟩
      dsimp only
      cases good : q.outcome.isOk with
      | true => exact ⟨fun _ => ⟨q, rfl, good⟩, fun _ => rfl⟩
      | false =>
          refine ⟨(fun same => nomatch same), fun ⟨_, same, other⟩ => ?_⟩
          cases same
          cases good.symm.trans other

theorem Course.result_iff {strides : List Stride} {ended : Except Failure Progress}
    (course : settings.Course host Step.all Progress.start strides ended) :
    (∃ q, ended = .ok q ∧ q.outcome.isOk = true) ↔
      strides.map Stride.step = Step.all ∧
        ∀ stride ∈ strides, stride.step ≠ .webhook → stride.failure = none := by
  cases ended with
  | error failure =>
      obtain ⟨before, acts, step, rfl, fatal⟩ := course.of_error
      refine iff_of_false (fun ⟨_, same, _⟩ => nomatch same) fun ⟨_, passed⟩ => ?_
      have other : step ≠ .webhook := fun named => by
        rw [named] at fatal
        cases fatal
      exact nomatch passed _ (List.mem_append_right _ (List.mem_singleton_self _)) other
  | ok q =>
      obtain ⟨every, passed⟩ := course.of_ok
      have ended := course.failure_of_suites (by decide)
      constructor
      · rintro ⟨_, same, good⟩
        cases same
        refine ⟨every, fun stride taken other => ?_⟩
        by_cases named : stride.step = .suites
        · rw [ended stride taken named]
          exact Option.isNone_iff_eq_none.mp ((isNone_fault? q.outcome).trans good)
        · refine passed stride taken ?_
          cases kind : stride.step with
          | suites => exact absurd kind named
          | webhook => exact absurd kind other
          | _ => rfl
      · rintro ⟨_, none⟩
        have ran : .suites ∈ strides.map Stride.step := every ▸ by decide
        obtain ⟨stride, taken, named⟩ := List.mem_map.mp ran
        have good := none stride taken (named ▸ by decide)
        rw [ended stride taken named] at good
        exact ⟨q, rfl, (isNone_fault? q.outcome).symm.trans (Option.isNone_iff_eq_none.mpr good)⟩

/-- Once the suites were run the run is reported. -/
theorem Course.reports {strides : List Stride} {ended : Except Failure Progress}
    (course : settings.Course host Step.all Progress.start strides ended)
    (ran : .suites ∈ strides.map Stride.step) : .webhook ∈ strides.map Stride.step := by
  cases ended with
  | ok q =>
      rw [course.of_ok.1]
      decide
  | error failure =>
      obtain ⟨before, acts, last, rfl, fatal⟩ := course.of_error
      -- the steps that were taken are the first ones, so the last of them comes after the suites
      have order := course.isPrefix
      have ends : ((before ++ [Stride.mk last acts (some failure)]).map Stride.step).getLast? =
          some last := by
        rw [List.map_append]
        exact List.getLast?_concat
      have cut : ∀ n ≤ 9, .suites ∈ Step.all.take n →
          (Step.all.take n).getLast?.all (fun step => step.fatal) = true →
            .webhook ∈ Step.all.take n := by decide
      rw [List.prefix_iff_eq_take.mp order] at ran ends ⊢
      exact cut _ order.length_le ran (ends ▸ fatal)

/-- Only a fatal step that fails keeps a job from taking all steps. -/
theorem Course.complete_or_failed {strides : List Stride} {ended : Except Failure Progress}
    (course : settings.Course host Step.all Progress.start strides ended) :
    strides.map Stride.step = Step.all ∨
      ∃ before last, strides = before ++ [last] ∧ last.step.fatal = true ∧ last.failure ≠ none := by
  cases ended with
  | ok q => exact Or.inl course.of_ok.1
  | error failure =>
      obtain ⟨before, acts, last, rfl, fatal⟩ := course.of_error
      exact Or.inr ⟨before, _, rfl, fatal, Option.some_ne_none failure⟩

/-- A job whose steps are taken in their order. -/
structure StepByStep (settings : SuiteJob) (host : Host σ) (strides : List Stride)
    (result : Except Failure Unit) (acts : List Act) : Prop where
  acts_eq : acts = strides.flatMap Stride.acts
  inOrder : strides.map Stride.step <+: Step.all
  /-- The platform is installed at most twice, the second time only after the first attempt failed. -/
  deeds : ∀ stride ∈ strides, settings.Deed host stride.step stride.acts stride.failure
  /-- A step is taken only if no fatal one before it has failed. -/
  passed : ∀ stride ∈ strides.dropLast, stride.step.fatal = true → stride.failure = none
  /-- The steps end early only with a fatal one that fails. -/
  complete_or_failed : strides.map Stride.step = Step.all ∨
    ∃ before last, strides = before ++ [last] ∧ last.step.fatal = true ∧ last.failure ≠ none
  /-- Whatever became of the suites, the run is reported then. -/
  reported : .suites ∈ strides.map Stride.step → .webhook ∈ strides.map Stride.step
  /-- There is one post at most, and nothing is posted before the suites were run. -/
  posts_once : ∀ before act after, acts = before ++ act :: after → act.Posts →
    RanSuites host before ∧ ∀ other ∈ before ++ after, ¬other.Posts
  ok_iff : result = .ok () ↔ strides.map Stride.step = Step.all ∧
    ∀ stride ∈ strides, stride.step ≠ .webhook → stride.failure = none

/-- Every job is run step by step. -/
theorem run_step_by_step (settings : SuiteJob) (host : Host σ) (s : σ) :
    settings.StepByStep host (settings.strides host s) (settings.result host s)
      (settings.acts host s) := by
  obtain ⟨ended, course, acts, result⟩ := settings.exists_course_run host s
  exact ⟨acts, course.isPrefix, course.deeds, course.passed, course.complete_or_failed,
    course.reports, fun _ _ _ parts posts =>
      SuiteJob.posts_once course.isPrefix course.deeds (acts.symm.trans parts) posts,
    result.trans course.result_iff⟩

end SuiteJob

namespace Rehearsal

def Play.refused : Play := ⟨.exited 1, [], [], false⟩

def signedUp : Reply :=
  ⟨200, Utf8.encode ("\x7b\"metadata\":\x7b\x7d,\"spec\":[\"\",\"\"]," ++
    "\"status\":[[[\"Complete\",\"True\"]]]\x7d"), false, none, none, false⟩

/-- A host of a nightly job.  The first attempt to install the platform fails, and so do the suites;
the receiver of webhooks is not available. -/
def nightlyHost : Host HostState := host {
  server := "", script := [signedUp], secureServers := ["smee.io"]
  secureScript := some [⟨503, [], false, none, none, false⟩]
  programs := ["which", "git", "cargo"]
  plays := [("bootstrap-cluster.sh", [.refused]), ("cargo", [.refused])]
  absent := []
  environment := [("JOB_TYPE", "periodic"), ("GITHUB_TOKEN", "token"), ("QUAY_TOKEN", "token")]
  verbosity := .info, coloured := false, workingDirectory := "/", home := "/", repository := "."
  kubeconfig := some ("\x7bcurrent-context: c,contexts: [\x7bname: c,context: \x7bcluster: c\x7d" ++
    "\x7d],clusters: [\x7bname: c,cluster: \x7bserver: s\x7d\x7d]\x7d")
  executable := "", today := ⟨⟨2024, 3, 10⟩, 720, 0, 0⟩ }

def nightlyJob : SuiteJob := ⟨"", ⟨"", "", "", ""⟩, ⟨"salt", "https://smee.io/channel"⟩⟩

/-- The suites of a nightly job fail, so the job fails; it is reported all the same. -/
theorem nightlyJob_reported :
    .webhook ∈ (nightlyJob.strides nightlyHost (.start [])).map SuiteJob.Stride.step ∧
      nightlyJob.result nightlyHost (.start []) ≠ .ok () ∧
      ∀ before act after,
        nightlyJob.acts nightlyHost (.start []) = before ++ act :: after → act.Posts →
          SuiteJob.RanSuites nightlyHost before ∧ ∀ other ∈ before ++ after, ¬other.Posts := by
  have failed : (SuiteJob.Step.suites, true) ∈
      (nightlyJob.strides nightlyHost (.start [])).map fun stride =>
        (stride.step, stride.failure.isSome) := by decide +kernel
  obtain ⟨stride, taken, same⟩ := List.mem_map.mp failed
  obtain ⟨named, wrong⟩ := Prod.mk.inj same
  have run := nightlyJob.run_step_by_step nightlyHost (.start [])
  refine ⟨run.reported (List.mem_map.mpr ⟨stride, taken, named⟩), fun good => ?_, run.posts_once⟩
  have passed := (run.ok_iff.mp good).2 stride taken (named ▸ by decide)
  rw [passed] at wrong
  cases wrong

end Rehearsal

end ClusterHarness
