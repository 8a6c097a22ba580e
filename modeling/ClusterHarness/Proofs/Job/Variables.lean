import ClusterHarness.Job.Profile
import ClusterHarness.Proofs.Json.Sorted
import ClusterHarness.Proofs.Text.Pieces

/-!
# What a job's variables make the installer do

The variables of a job are read back by name: by the installer's choice of a fork and a branch, and
by the scripts that deploy a service.  So what is installed depends on the job through these names
alone.  Main statement: a branch of the infrastructure is installed only for a pull request that has
one, an image only for a service with a profile, and never both.
-/

namespace ClusterHarness

/-! ## The names -/

def serviceEndings : List String := ["_IMAGE_REPO", "_IMAGE_TAG", "_PR_OWNER", "_PR_SHA"]

def DescribesService (name : String) : Prop :=
  ∃ ending ∈ serviceEndings, ending.toList <:+ name.toList

def DescribesInfra (name : String) : Prop := "INFRA_DEPLOYMENTS_".toList <+: name.toList

instance (name : String) : Decidable (DescribesService name) :=
  inferInstanceAs (Decidable (∃ _ ∈ serviceEndings, _))

instance (name : String) : Decidable (DescribesInfra name) :=
  inferInstanceAs (Decidable (_ <+: _))

theorem describesService_append (lead : String) {ending : String}
    (listed : ending ∈ serviceEndings) : DescribesService (lead ++ ending) := by
  refine ⟨ending, listed, ?_⟩
  rw [String.toList_append]
  exact List.suffix_append lead.toList ending.toList

/-! ## What a job calls for -/

/-- The text up to the first of these characters. -/
def UpTo (stop : Char) (text before : List Char) : Prop :=
  stop ∉ before ∧ ∃ rest, text = before ++ rest ∧ (rest = [] ∨ rest.head? = some stop)

theorem takeWhile_eq_iff {stop : Char} {text before : List Char} :
    text.takeWhile (· ≠ stop) = before ↔ UpTo stop text before := by
  constructor
  · rintro rfl
    refine ⟨fun member => ?_, text.dropWhile (· ≠ stop), List.takeWhile_append_dropWhile.symm, ?_⟩
    · simpa using List.mem_takeWhile_imp member
    · cases rest : text.dropWhile (· ≠ stop) with
      | nil => exact .inl rfl
      | cons c more =>
          have stopped := List.head?_dropWhile_not (fun c => decide (c ≠ stop)) text
          rw [rest] at stopped
          exact .inr (by simpa using stopped)
  · rintro ⟨free, rest, rfl, ends⟩
    have passed : ∀ c ∈ before, decide (c ≠ stop) = true := fun c member =>
      decide_eq_true fun same => free (same ▸ member)
    rw [List.takeWhile_append_of_pos passed]
    rcases ends with rfl | stopped
    · exact List.append_nil before
    · obtain ⟨more, rfl⟩ := List.head?_eq_some_iff.mp stopped
      rw [List.takeWhile_cons_of_neg (by simp), List.append_nil]

/-- What the profile's scripts are told about an image and pull requests. -/
inductive Profile.Tells (profile : Profile) (image : String) (pulls : List Pull) :
    String → String → Prop where
  | imageRepo {repo : String} (before : UpTo '@' image.toList repo.toList) :
      Tells profile image pulls (profile.lead ++ "_IMAGE_REPO") repo
  | imageTag :
      Tells profile image pulls (profile.lead ++ "_IMAGE_TAG")
        (upstreamOrg ++ "-" ++ profile.imageTag)
  | owner {pull : Pull} (first : pulls.head? = some pull) :
      Tells profile image pulls (profile.lead ++ "_PR_OWNER") pull.author
  | sha {pull : Pull} (first : pulls.head? = some pull) :
      Tells profile image pulls (profile.lead ++ "_PR_SHA") pull.sha

namespace JobContext

variable (job : JobContext)

/-- The job's name is that of a periodic job, which selects suites only. -/
def HasPeriodicName : Prop :=
  "hacbs-e2e-periodic".toList <:+: job.jobName.toList ∨
    "appstudio-e2e-deployment-periodic".toList <:+: job.jobName.toList

/-- The job installs the branch of the pull request under test: one of the infrastructure, or one of
the suites that pairs with the infrastructure. -/
def TakesBranch (infraPairing : Bool) : Prop :=
  ¬job.HasPeriodicName ∧ ∃ refs, job.refs = some refs ∧
    (refs.repo = infraRepo ∨ refs.repo = testsRepo ∧ infraPairing = true)

/-- The job tests these pull requests of the profile's repository. -/
def TestsService (profile : Profile) (pulls : List Pull) : Prop :=
  ¬job.HasPeriodicName ∧ profile ∈ Profile.all ∧ ∃ refs, job.refs = some refs ∧
    refs.repo = profile.repo ∧ refs.pulls = pulls

end JobContext

/-! ## The kind of a run -/

theorem Profile.find?_eq_some {repo : String} {profile : Profile} :
    Profile.find? repo = some profile ↔ profile ∈ Profile.all ∧ repo = profile.repo := by
  constructor
  · intro found
    have same : profile.repo = repo := by simpa using List.find?_some found
    exact ⟨List.mem_of_find?_eq_some found, same.symm⟩
  · rintro ⟨listed, rfl⟩
    revert profile
    decide

namespace JobContext

variable {job : JobContext} {infraPairing : Bool}

theorem runKind_of_periodicName (named : job.HasPeriodicName) (infraPairing : Bool) :
    ∃ label, job.runKind infraPairing = .labelled label := by
  unfold runKind
  split
  · exact ⟨_, rfl⟩
  · next other =>
      have marked : Text.hasPart "appstudio-e2e-deployment-periodic" job.jobName = true :=
        Text.hasPart_iff.mpr (named.resolve_left (other ∘ Text.hasPart_iff.mpr))
      rw [if_pos marked]
      exact ⟨_, rfl⟩

/-- Without such a name the repository of the pull request decides. -/
theorem runKind_of_not_periodicName (plain : ¬job.HasPeriodicName) :
    job.runKind infraPairing =
      match job.refs with
      | none => .plain
      | some refs =>
        if refs.repo = testsRepo then .infra infraPairing
        else if refs.repo = infraRepo then .infra true
        else if Text.hasPart "-service" refs.repo then
          match Profile.find? refs.repo with
          | some profile => .service profile refs.pulls
          | none => .unknownService refs.repo
        else .plain := by
  unfold HasPeriodicName at plain
  rw [not_or, ← Text.hasPart_iff, ← Text.hasPart_iff] at plain
  exact (if_neg plain.1).trans (if_neg plain.2)

theorem runKind_eq_infra_iff :
    job.runKind infraPairing = .infra true ↔ job.TakesBranch infraPairing := by
  by_cases named : job.HasPeriodicName
  · obtain ⟨label, labelled⟩ := runKind_of_periodicName named infraPairing
    rw [labelled]
    exact ⟨nofun, fun takes => absurd named takes.1⟩
  · rw [runKind_of_not_periodicName named, TakesBranch, and_iff_right named]
    cases job.refs with
    | none => simp
    | some refs =>
        simp only [Option.some.injEq, exists_eq_left']
        by_cases tests : refs.repo = testsRepo
        · have other : testsRepo ≠ infraRepo := by decide
          simp [tests, other]
        · by_cases infra : refs.repo = infraRepo
          · have other : infraRepo ≠ testsRepo := by decide
            simp [infra, other]
          · rw [if_neg tests, if_neg infra]
            simp only [tests, infra, false_and, or_false, iff_false]
            split
            · split <;> nofun
            · nofun

/-- The repositories with a profile are services. -/
theorem repo_of_profile :
    ∀ profile ∈ Profile.all, profile.repo ≠ testsRepo ∧ profile.repo ≠ infraRepo ∧
      Text.hasPart "-service" profile.repo = true := by
  decide

theorem runKind_eq_service_iff {profile : Profile} {pulls : List Pull} :
    job.runKind infraPairing = .service profile pulls ↔ job.TestsService profile pulls := by
  by_cases named : job.HasPeriodicName
  · obtain ⟨label, labelled⟩ := runKind_of_periodicName named infraPairing
    rw [labelled]
    exact ⟨nofun, fun tests => absurd named tests.1⟩
  · rw [runKind_of_not_periodicName named, TestsService, and_iff_right named]
    cases job.refs with
    | none => simp
    | some refs =>
        simp only [Option.some.injEq, exists_eq_left']
        constructor
        · intro kind
          split at kind
          · cases kind
          · split at kind
            · cases kind
            · split at kind
              · cases found : Profile.find? refs.repo with
                | none =>
                    rw [found] at kind
                    cases kind
                | some other =>
                    rw [found] at kind
                    cases kind
                    obtain ⟨listed, same⟩ := Profile.find?_eq_some.mp found
                    exact ⟨listed, same, rfl⟩
              · cases kind
        · rintro ⟨listed, same, rfl⟩
          obtain ⟨notTests, notInfra, service⟩ := repo_of_profile profile listed
          rw [same, if_neg notTests, if_neg notInfra, if_pos service,
            Profile.find?_eq_some.mpr ⟨listed, rfl⟩]

end JobContext

/-! ## The variables of each kind -/

/-- The label of suites describes neither a service nor the infrastructure. -/
theorem not_describes_labelVariable :
    ¬DescribesService labelVariable ∧ ¬DescribesInfra labelVariable := by
  decide

theorem describes_of_mem_infraVariables {pull : Option PullUnderTest} {name value : String}
    (member : (name, value) ∈ infraVariables pull) :
    DescribesInfra name ∧ ¬DescribesService name := by
  have names : ∀ name ∈ [infraOrgVariable, infraBranchVariable],
      DescribesInfra name ∧ ¬DescribesService name := by decide
  cases pull with
  | none => cases member
  | some pull =>
      refine names name ?_
      simpa [infraVariables] using List.mem_map_of_mem (f := Prod.fst) member

theorem nodup_infraVariables (pull : Option PullUnderTest) :
    ((infraVariables pull).map (·.1)).Nodup := by
  have different : infraOrgVariable ≠ infraBranchVariable := by decide
  cases pull with
  | none => exact List.nodup_nil
  | some pull => simp [infraVariables, different]

namespace Profile

variable {profile : Profile} {image name value : String} {pulls : List Pull}

theorem tells_imageRepo {repo : String} :
    UpTo '@' image.toList repo.toList ↔
      repo = String.ofList (image.toList.takeWhile (· ≠ '@')) := by
  rw [← takeWhile_eq_iff, ← String.toList_inj, String.toList_ofList, eq_comm]

theorem mem_bindings :
    (name, value) ∈ profile.bindings image pulls ↔
      profile.Tells image pulls name value ∨ (name, value) = (labelVariable, profile.label) := by
  constructor
  · intro member
    rcases List.mem_append.mp member with told | label
    · refine .inl ?_
      rcases List.mem_append.mp told with said | owned
      · simp only [List.mem_cons, List.not_mem_nil, or_false, Prod.mk.injEq] at said
        rcases said with ⟨rfl, rfl⟩ | ⟨rfl, rfl⟩
        · exact .imageRepo (tells_imageRepo.mpr rfl)
        · exact .imageTag
      · cases first : pulls.head? with
        | none =>
            rw [first] at owned
            cases owned
        | some pull =>
            rw [first] at owned
            simp only [List.mem_cons, List.not_mem_nil, or_false, Prod.mk.injEq] at owned
            rcases owned with ⟨rfl, rfl⟩ | ⟨rfl, rfl⟩
            · exact .owner first
            · exact .sha first
    · exact .inr (List.mem_singleton.mp label)
  · unfold bindings
    rintro (told | label)
    · cases told with
      | imageRepo before => simp [tells_imageRepo.mp before]
      | imageTag => simp
      | owner first => simp [first]
      | sha first => simp [first]
    · simp [label]

theorem Tells.describesService (told : profile.Tells image pulls name value) :
    DescribesService name := by
  cases told <;> exact describesService_append _ (by decide)

/-- No service's variable is one of the infrastructure. -/
theorem Tells.not_describesInfra (told : profile.Tells image pulls name value)
    (listed : profile ∈ all) : ¬DescribesInfra name := by
  have names : ∀ profile ∈ all, ∀ ending ∈ serviceEndings,
      ¬DescribesInfra (profile.lead ++ ending) := by decide
  cases told <;> exact names profile listed _ (by decide)

theorem nodup_bindings (profile : Profile) (image : String) (pulls : List Pull) :
    ((profile.bindings image pulls).map (·.1)).Nodup := by
  have other : ∀ ending ∈ serviceEndings, profile.lead ++ ending ≠ labelVariable :=
    fun ending listed same =>
      not_describes_labelVariable.1 (same ▸ describesService_append profile.lead listed)
  have distinct : (serviceEndings.map (profile.lead ++ ·)).Nodup :=
    List.Nodup.map (fun _ _ => (String.append_right_inj _).mp) (by decide)
  have whole : (serviceEndings.map (profile.lead ++ ·) ++ [labelVariable]).Nodup := by
    refine List.nodup_append.mpr ⟨distinct, List.nodup_singleton _, ?_⟩
    rintro _ named _ label rfl
    obtain ⟨ending, listed, same⟩ := List.mem_map.mp named
    exact other ending listed (same.trans (List.mem_singleton.mp label))
  unfold bindings
  cases pulls.head? with
  | some pull => exact whole
  | none => exact whole.sublist (.cons_cons _ (.cons_cons _ (.cons _ (.cons _ (.refl _)))))

end Profile

def RunKind.bindings (image : String) (pull : Option PullUnderTest) :
    RunKind → List (String × String)
  | .labelled label => [(labelVariable, label)]
  | .infra true => infraVariables pull
  | .service profile pulls => profile.bindings image pulls
  | .infra false | .unknownService _ | .plain => []

namespace RunKind

variable {image : String} {pull : Option PullUnderTest} {name value : String}

theorem nodup_bindings (kind : RunKind) : ((kind.bindings image pull).map (·.1)).Nodup := by
  unfold bindings
  split
  · exact List.nodup_singleton _
  · exact nodup_infraVariables pull
  · exact Profile.nodup_bindings _ image _
  all_goals exact List.nodup_nil

theorem mem_bindings_of_describesService (describes : DescribesService name) (kind : RunKind) :
    (name, value) ∈ kind.bindings image pull ↔
      ∃ profile pulls, kind = .service profile pulls ∧ profile.Tells image pulls name value := by
  have notLabel : name ≠ labelVariable := fun same =>
    not_describes_labelVariable.1 (same ▸ describes)
  have notInfra : (name, value) ∉ infraVariables pull := fun member =>
    (describes_of_mem_infraVariables member).2 describes
  unfold bindings
  split
  · simp [notLabel]
  · simp [notInfra]
  · simp [Profile.mem_bindings, notLabel]
  all_goals simp

theorem mem_bindings_of_describesInfra (describes : DescribesInfra name) (kind : RunKind)
    (known : ∀ profile pulls, kind = .service profile pulls → profile ∈ Profile.all) :
    (name, value) ∈ kind.bindings image pull ↔
      kind = .infra true ∧ (name, value) ∈ infraVariables pull := by
  have notLabel : name ≠ labelVariable := fun same =>
    not_describes_labelVariable.2 (same ▸ describes)
  unfold bindings
  split
  · simp [notLabel]
  · simp
  · next profile pulls =>
      have listed : profile ∈ Profile.all := known profile pulls rfl
      have untold : ¬profile.Tells image pulls name value := fun told =>
        told.not_describesInfra listed describes
      simp [Profile.mem_bindings, untold, notLabel]
  all_goals simp

theorem describes_of_mem_bindings {kind : RunKind}
    (member : (name, value) ∈ kind.bindings image pull) :
    name = labelVariable ∨ DescribesService name ∨ DescribesInfra name := by
  unfold bindings at member
  split at member
  · exact .inl (Prod.mk.inj (List.mem_singleton.mp member)).1
  · exact .inr (.inr (describes_of_mem_infraVariables member).1)
  · rcases Profile.mem_bindings.mp member with told | label
    · exact .inr (.inl told.describesService)
    · exact .inl (Prod.mk.inj label).1
  all_goals cases member

end RunKind

namespace JobContext

variable {job : JobContext} {infraPairing : Bool} {image : String} {pull : Option PullUnderTest}
  {name value : String}

theorem get?_bindings :
    (job.bindings image pull infraPairing).get? name = some value ↔
      (name, value) ∈ (job.runKind infraPairing).bindings image pull := by
  rw [← Dictionary.get?_ofList_eq_some (RunKind.nodup_bindings _)]
  rfl

theorem get?_of_describesService (describes : DescribesService name) :
    (job.bindings image pull infraPairing).get? name = some value ↔
      ∃ profile pulls, job.TestsService profile pulls ∧ profile.Tells image pulls name value := by
  rw [get?_bindings, RunKind.mem_bindings_of_describesService describes]
  simp only [runKind_eq_service_iff]

theorem get?_of_describesInfra (describes : DescribesInfra name) :
    (job.bindings image pull infraPairing).get? name = some value ↔
      job.TakesBranch infraPairing ∧ (name, value) ∈ infraVariables pull := by
  have known : ∀ profile pulls, job.runKind infraPairing = .service profile pulls →
      profile ∈ Profile.all := fun profile pulls kind => (runKind_eq_service_iff.mp kind).2.1
  rw [get?_bindings, RunKind.mem_bindings_of_describesInfra describes _ known,
    runKind_eq_infra_iff]

/-- A job with a branch of the infrastructure tests no service. -/
theorem TakesBranch.not_testsService (takes : job.TakesBranch infraPairing) {profile : Profile}
    {pulls : List Pull} : ¬job.TestsService profile pulls := by
  intro tests
  have kind := runKind_eq_infra_iff.mpr takes
  rw [runKind_eq_service_iff.mpr tests] at kind
  cases kind

/-- The scripts that deploy the suites' own code are given its commit. -/
def commitVariable : String := "E2E_TESTS_COMMIT_SHA"

/-- The job runs the suites' own pull request in the continuous integration. -/
def TestsItself (job : JobContext) : Prop := job.inCi = true ∧ job.repoName = testsRepo

instance (job : JobContext) : Decidable job.TestsItself := inferInstanceAs (Decidable (_ ∧ _))

theorem get?_installerVariables (job : JobContext) (bindings : Dictionary String) (name : String) :
    (job.installerVariables bindings).get? name =
      if job.TestsItself ∧ commitVariable = name then some job.pullSha
      else bindings.get? name := by
  unfold installerVariables TestsItself
  by_cases itself : job.inCi = true ∧ job.repoName = testsRepo
  · rw [if_pos itself, Dictionary.get?_insert]
    exact if_congr (and_iff_right itself).symm rfl rfl
  · rw [if_neg itself, if_neg fun both => itself both.1]

theorem get?_installerVariables_of_ne (bindings : Dictionary String) {name : String}
    (other : commitVariable ≠ name) :
    (job.installerVariables bindings).get? name = bindings.get? name := by
  rw [get?_installerVariables, if_neg fun both => other both.2]

theorem get?_bindings_commitVariable :
    (job.bindings image pull infraPairing).get? commitVariable = none := by
  refine Option.eq_none_iff_forall_ne_some.mpr fun value bound => ?_
  have described := RunKind.describes_of_mem_bindings (get?_bindings.mp bound)
  revert described
  decide

/-- The installer reads the two variables of a branch. -/
theorem infraSource_installerVariables (job : JobContext) (bindings : Dictionary String) :
    infraSource (job.installerVariables bindings) = infraSource bindings := by
  unfold infraSource
  rw [get?_installerVariables_of_ne bindings (by decide),
    get?_installerVariables_of_ne bindings (by decide)]

theorem infraSource_of_takesBranch {p : PullUnderTest} (takes : job.TakesBranch infraPairing) :
    infraSource (job.bindings image (some p) infraPairing) =
      (forkUrl p.remote infraRepo, p.branch) := by
  have org : (job.bindings image (some p) infraPairing).get? infraOrgVariable = some p.remote :=
    (get?_of_describesInfra (by decide)).mpr ⟨takes, by simp [infraVariables]⟩
  have branch : (job.bindings image (some p) infraPairing).get? infraBranchVariable =
      some p.branch :=
    (get?_of_describesInfra (by decide)).mpr ⟨takes, by simp [infraVariables]⟩
  rw [infraSource, org, branch]
  rfl

theorem infraSource_of_not_takesBranch (plain : pull = none ∨ ¬job.TakesBranch infraPairing) :
    infraSource (job.bindings image pull infraPairing) =
      (forkUrl upstreamOrg infraRepo, "main") := by
  have unbound : ∀ name, DescribesInfra name →
      (job.bindings image pull infraPairing).get? name = none := by
    intro name describes
    refine Option.eq_none_iff_forall_ne_some.mpr fun value bound => ?_
    obtain ⟨takes, member⟩ := (get?_of_describesInfra describes).mp bound
    rcases plain with rfl | untaken
    · cases member
    · exact untaken takes
  rw [infraSource, unbound infraOrgVariable (by decide), unbound infraBranchVariable (by decide)]
  rfl

/-- The installer runs from the right fork with the right variables. -/
structure InstallsTested (job : JobContext) (image : String) (pull : Option PullUnderTest)
    (infraPairing : Bool) (bindings installer : Dictionary String) : Prop where
  branch : ∀ p, pull = some p → job.TakesBranch infraPairing → infraSource installer =
    ("https://github.com/" ++ p.remote ++ "/" ++ infraRepo ++ ".git", p.branch)
  main : pull = none ∨ ¬job.TakesBranch infraPairing → infraSource installer =
    ("https://github.com/" ++ upstreamOrg ++ "/" ++ infraRepo ++ ".git", "main")
  service : ∀ name value, DescribesService name → (bindings.get? name = some value ↔
    ∃ profile pulls, job.TestsService profile pulls ∧ profile.Tells image pulls name value)
  /-- What describes a service is never there along with what describes a branch. -/
  apart : ∀ name name', DescribesService name → DescribesInfra name' →
    bindings.get? name = none ∨ bindings.get? name' = none
  unbound : bindings.get? commitVariable = none
  /-- The installer is given nothing more than the commit of the suites. -/
  added : ∀ name value, installer.get? name = some value ↔ bindings.get? name = some value ∨
    job.TestsItself ∧ name = commitVariable ∧ value = job.pullSha

/-- What is installed is what the job tests, whichever pull request it runs for. -/
theorem installs_what_is_tested (job : JobContext) (image : String) (pull : Option PullUnderTest)
    (infraPairing : Bool) :
    job.InstallsTested image pull infraPairing (job.bindings image pull infraPairing)
      (job.installerVariables (job.bindings image pull infraPairing)) where
  branch := by
    rintro p rfl takes
    exact (infraSource_installerVariables ..).trans (infraSource_of_takesBranch takes)
  main := by
    intro plain
    exact (infraSource_installerVariables ..).trans (infraSource_of_not_takesBranch plain)
  service name value describes := get?_of_describesService describes
  apart name name' service infra := by
    refine or_iff_not_imp_right.mpr fun branch => ?_
    obtain ⟨value, bound⟩ := Option.ne_none_iff_exists'.mp branch
    obtain ⟨takes, -⟩ := (get?_of_describesInfra infra).mp bound
    refine Option.eq_none_iff_forall_ne_some.mpr fun value bound => ?_
    obtain ⟨_, _, tests, -⟩ := (get?_of_describesService service).mp bound
    exact takes.not_testsService tests
  unbound := get?_bindings_commitVariable
  added name value := by
    rw [get?_installerVariables]
    by_cases added : job.TestsItself ∧ commitVariable = name
    · obtain ⟨itself, rfl⟩ := added
      simp [itself, get?_bindings_commitVariable, eq_comm]
    · rw [if_neg added]
      refine (or_iff_left ?_).symm
      rintro ⟨itself, rfl, -⟩
      exact added ⟨itself, rfl⟩

end JobContext

namespace Rehearsal

def pullJob (repo : String) : JobContext where
  jobName := "pull-ci"
  jobType := "presubmit"
  artifactDir := "."
  spec := some ⟨"presubmit", "pull-ci",
    ⟨upstreamOrg, repo, "", "main", [⟨7, "octocat", "0123abcd"⟩]⟩⟩
  repoOwner := upstreamOrg
  repoName := repo
  pullNumber := "7"
  pullSha := "0123abcd"
  inCi := true

def pairedPull : PullUnderTest :=
  ⟨"octocat", upstreamOrg, testsRepo, "0123abcd", 7, "fork", "feature"⟩

/-- The suites install the branch that pairs with theirs, and a service the image of its pull
request. -/
theorem installs_what_is_tested_pullJob :
    let suites := (pullJob testsRepo).bindings "" (some pairedPull) true
    let service := (pullJob "build-service").bindings "quay.io/ci@sha256:1" none false
    infraSource ((pullJob testsRepo).installerVariables suites) =
        ("https://github.com/fork/infra-deployments.git", "feature") ∧
      infraSource ((pullJob "build-service").installerVariables service) =
        ("https://github.com/redhat-appstudio/infra-deployments.git", "main") ∧
      service.get? "BUILD_SERVICE_IMAGE_REPO" = some "quay.io/ci" := by
  have plain : ∀ repo, ¬(pullJob repo).HasPeriodicName := by
    intro repo
    rw [JobContext.HasPeriodicName, ← Text.hasPart_iff, ← Text.hasPart_iff]
    have names : ¬(Text.hasPart "hacbs-e2e-periodic" "pull-ci" = true ∨
        Text.hasPart "appstudio-e2e-deployment-periodic" "pull-ci" = true) := by decide
    exact names
  have listed : ⟨"build-service", "BUILD_SERVICE", "build-service-image", "build"⟩ ∈
      Profile.all := by decide
  have name : "BUILD_SERVICE_IMAGE_REPO" = "BUILD_SERVICE" ++ "_IMAGE_REPO" := rfl
  have before : UpTo '@' "quay.io/ci@sha256:1".toList "quay.io/ci".toList :=
    ⟨by decide, "@sha256:1".toList, by decide, by decide⟩
  have suites := JobContext.installs_what_is_tested (pullJob testsRepo) "" (some pairedPull) true
  have service := JobContext.installs_what_is_tested (pullJob "build-service")
    "quay.io/ci@sha256:1" none false
  refine ⟨(suites.branch pairedPull rfl ⟨plain _, _, rfl, .inr ⟨rfl, rfl⟩⟩).trans (by decide),
    (service.main (.inl rfl)).trans (by decide), ?_⟩
  rw [name, service.service _ _ (by decide)]
  exact ⟨_, _, ⟨plain _, listed, _, rfl, rfl, rfl⟩, .imageRepo before⟩

end Rehearsal

end ClusterHarness
