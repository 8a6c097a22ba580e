import ClusterHarness.Proofs.Platform.Waits

/-!
# Single evaluations

An evaluation of a wait's condition looks its subject up and ends the wait exactly when the look-up
shows the awaited state or rules it out.  Otherwise it does nothing else.  It never sets the clock
back.
-/

namespace ClusterHarness

open Polling

variable {σ : Type}

namespace Wait

/-! ## The run listed first -/

/-- What is found is the run listed first; if none is, nothing is found. -/
def FirstOf (listed : Except Error (List PipelineRun)) (found : Except Error PipelineRun) : Prop :=
  ∀ run, found = .ok run ↔ ∃ rest, listed = .ok (run :: rest)

theorem firstOf_cons (run : PipelineRun) (rest : List PipelineRun) :
    FirstOf (.ok (run :: rest)) (.ok run) := by
  intro other
  constructor
  · intro same
    cases same
    exact ⟨rest, rfl⟩
  · rintro ⟨_, same⟩
    cases same
    rfl

theorem firstOf_nil (cause : Error) : FirstOf (.ok []) (.error cause) :=
  fun _ => ⟨nofun, nofun⟩

theorem firstOf_error (cause other : Error) : FirstOf (.error cause) (.error other) :=
  fun _ => ⟨nofun, nofun⟩

theorem FirstOf.head?_ne {listed : Except Error (List PipelineRun)} {cause : Error}
    (nothing : FirstOf listed (.error cause)) {runs : List PipelineRun} (same : listed = .ok runs)
    (run : PipelineRun) : runs.head? ≠ some run := by
  intro first
  obtain ⟨rest, rfl⟩ := List.head?_eq_some_iff.mp first
  cases (nothing run).mpr ⟨rest, same⟩

abbrev describeRun : Except Error PipelineRun → String :=
  describe fun run => (PipelineRun.summary run).text

/-- Reading off the run listed first makes no further request. -/
theorem firstOf_bind {pick : List PipelineRun → Session σ PipelineRun} {missing : Error}
    (picks : ∀ run rest, pick (run :: rest) = pure run) (misses : pick [] = throw missing)
    (list : Session σ (List PipelineRun)) (s : σ) :
    ∃ found, FirstOf (list.run s).1 found ∧
      describe (describeFirst missing) (list.run s).1 = describeRun found ∧
      (list >>= pick).run s = (found, (list.run s).2) := by
  rw [exceptT_run_bind]
  generalize list.run s = listed
  obtain ⟨cause | _ | ⟨run, rest⟩, t⟩ := listed
  · exact ⟨_, firstOf_error cause cause, rfl, rfl⟩
  · dsimp only
    rw [misses]
    exact ⟨_, firstOf_nil missing, rfl, rfl⟩
  · dsimp only
    rw [picks]
    exact ⟨_, firstOf_cons run rest, rfl, rfl⟩

variable (w : World σ)

theorem componentPipeline_first (component application ns : String) (s : σ) :
    ∃ found, FirstOf (((build component application ns).look w).run s).1 found ∧
      (build component application ns).observed (((build component application ns).look w).run s).1 =
        describeRun found ∧
      (w.componentPipeline component application ns).run s =
        (found, (((build component application ns).look w).run s).2) :=
  firstOf_bind (fun _ _ => rfl) rfl _ s

theorem releaseRun_first (managed name ns : String) (timeout : Nat) (s : σ) :
    ∃ found, FirstOf (((releaseRun managed name ns timeout).look w).run s).1 found ∧
      (releaseRun managed name ns timeout).observed
        (((releaseRun managed name ns timeout).look w).run s).1 = describeRun found ∧
      (w.releaseRun managed name ns).run s =
        (found, (((releaseRun managed name ns timeout).look w).run s).2) :=
  firstOf_bind (fun _ _ => rfl) rfl _ s

theorem testRun_first (scenario snapshot ns : String) (s : σ) :
    ∃ found, FirstOf (((test scenario snapshot ns).look w).run s).1 found ∧
      (test scenario snapshot ns).observed (((test scenario snapshot ns).look w).run s).1 =
        describeRun found ∧
      (w.testRun scenario snapshot ns).run s =
        (found, (((test scenario snapshot ns).look w).run s).2) := by
  unfold World.testRun World.firstRun look Session.attempt
  rw [exceptT_run_bind, ExceptT.run_mk, stateM_bind_apply]
  generalize ExceptT.run (w.list PipelineRun ns _) s = listed
  obtain ⟨cause | _ | ⟨run, rest⟩, t⟩ := listed
  · unfold observed noneIfAbsent
    dsimp only
    cases cause.isNotFound
    · exact ⟨_, firstOf_error _ _, rfl, rfl⟩
    · exact ⟨_, firstOf_error _ _, rfl, rfl⟩
  · exact ⟨_, firstOf_nil _, rfl, rfl⟩
  · exact ⟨_, firstOf_cons run rest, rfl, rfl⟩

/-! ## Evaluations -/

/-- How an evaluation goes after a look-up with some outcome that left some state behind. -/
inductive Judged (wait : Wait) (looked : Except Error wait.Subject) (s : σ) :
    Finding Error × σ → Prop where
  | reached {seen : Option String} (reached : wait.Reached looked) :
      Judged wait looked s (⟨.done, seen⟩, s)
  | fatal {seen : Option String} {cause : Error} {t : σ} (fatal : wait.Fatal w looked s cause)
      (reported : t = s ∨ ∃ run, t = (w.pipelineFailure run s).2) :
      Judged wait looked s (⟨.failed cause, seen⟩, t)
  | neither (notReached : ¬ wait.Reached looked)
      (notFatal : ∀ cause, ¬ wait.Fatal w looked s cause) :
      Judged wait looked s (.pendingAt (wait.observed looked), s)

theorem judged_pod (ns name : String) (state : PodState) (timeout : Nat) (s : σ) :
    Judged w (.pod ns name state timeout) ((w.get Pod ns name).run s).1
      ((w.get Pod ns name).run s).2 (w.podInState ns name state s) := by
  unfold World.podInState Session.attempt
  rw [stateM_bind_apply]
  generalize (w.get Pod ns name).run s = looked
  obtain ⟨_ | found, t⟩ := looked
  · refine .neither not_reached_error ?_
    rintro _ ⟨_, _, ⟨⟩, _⟩
  · dsimp only
    by_cases awaited : found.phase = state.name
    · rw [awaited, PodState.judge_name]
      exact .reached (reached_ok.mpr awaited)
    · by_cases missed : ∃ message, state.Missed found.phase message
      · obtain ⟨message, missed⟩ := missed
        rw [PodState.judge_of_missed missed]
        exact .fatal ⟨found, message, rfl, missed, rfl⟩ (Or.inl rfl)
      · rw [PodState.judge_of_not_missed awaited fun message fatal => missed ⟨message, fatal⟩]
        refine .neither (mt reached_ok.mp awaited) ?_
        rintro _ ⟨_, message, same, fatal, _⟩
        cases same
        exact missed ⟨message, fatal⟩

theorem judged_account (ns : String) (s : σ) :
    Judged w (.account ns) ((w.getOpt ServiceAccount ns pipelineAccount).run s).1
      ((w.getOpt ServiceAccount ns pipelineAccount).run s).2
      (w.serviceAccountPresent ns pipelineAccount s) := by
  unfold World.serviceAccountPresent Session.attempt
  rw [stateM_bind_apply]
  generalize (w.getOpt ServiceAccount ns pipelineAccount).run s = looked
  obtain ⟨_ | _ | present, t⟩ := looked
  · refine .neither not_reached_error ?_
    nofun
  · refine .neither ?_ ?_
    · rintro ⟨_, ⟨⟩, _, ⟨⟩⟩
    · nofun
  · exact .reached (reached_ok.mpr ⟨present, rfl⟩)

theorem judged_release (name ns : String) (timeout : Nat) (s : σ) :
    Judged w (.release name ns timeout) ((w.get Release ns name).run s).1
      ((w.get Release ns name).run s).2 (w.releaseSucceeded name ns s) := by
  unfold World.releaseSucceeded Session.attempt
  rw [stateM_bind_apply]
  generalize (w.get Release ns name).run s = looked
  obtain ⟨_ | found, t⟩ := looked
  · refine .neither not_reached_error ?_
    nofun
  · dsimp only
    by_cases succeeded : Release.succeeded found = true
    · rw [if_pos ⟨Condition.known_of_holds succeeded, succeeded⟩]
      exact .reached (reached_ok.mpr succeeded)
    · rw [if_neg fun final => succeeded final.2]
      refine .neither (mt reached_ok.mp succeeded) ?_
      nofun

theorem judged_releaseRun (managed name ns : String) (timeout : Nat) (s : σ) :
    Judged w (.releaseRun managed name ns timeout)
      (((releaseRun managed name ns timeout).look w).run s).1
      (((releaseRun managed name ns timeout).look w).run s).2
      (w.releaseRunSucceeded managed name ns s) := by
  obtain ⟨found, firstOf, reads, ran⟩ := releaseRun_first w managed name ns timeout s
  unfold World.releaseRunSucceeded Session.attempt
  rw [stateM_bind_apply, ran]
  generalize ((releaseRun managed name ns timeout).look w).run s = listed at firstOf reads
  obtain ⟨listed, t⟩ := listed
  cases found with
  | error cause =>
      have words : _ = cause.message := reads
      dsimp only
      rw [← words]
      refine .neither ?_ ?_
      · rintro ⟨_, same, run, first, _⟩
        exact firstOf.head?_ne same run first
      · nofun
  | ok run =>
      obtain ⟨rest, rfl⟩ := (firstOf run).mp rfl
      dsimp only
      by_cases final : PipelineRun.started run = true ∧ PipelineRun.succeeded run = true
      · rw [if_pos ⟨final.1, Condition.known_of_holds final.2, final.2⟩]
        exact .reached (reached_ok.mpr ⟨run, rfl, final⟩)
      · rw [if_neg fun all => final ⟨all.1, all.2.2⟩]
        refine .neither ?_ ?_
        · rintro ⟨_, ⟨⟩, _, ⟨⟩, awaited⟩
          exact final awaited
        · nofun

theorem judged_test (scenario snapshot ns : String) (s : σ) :
    Judged w (.test scenario snapshot ns) (((test scenario snapshot ns).look w).run s).1
      (((test scenario snapshot ns).look w).run s).2 (w.snapshotTested scenario snapshot ns s) := by
  obtain ⟨found, firstOf, reads, ran⟩ := testRun_first w scenario snapshot ns s
  unfold World.snapshotTested Session.attempt
  rw [stateM_bind_apply, ran]
  generalize ((test scenario snapshot ns).look w).run s = listed at firstOf reads
  obtain ⟨listed, t⟩ := listed
  cases found with
  | error cause =>
      have words : _ = cause.message := reads
      dsimp only
      rw [← words]
      refine .neither ?_ ?_
      · rintro ⟨_, same, run, first, _⟩
        exact firstOf.head?_ne same run first
      · rintro _ ⟨_, run, _, same, first, _⟩
        exact firstOf.head?_ne same run first
  | ok run =>
      obtain ⟨rest, rfl⟩ := (firstOf run).mp rfl
      dsimp only
      by_cases final : PipelineRun.done run = true
      · rw [if_neg fun unfinished => unfinished final]
        by_cases succeeded : PipelineRun.succeeded run = true
        · rw [if_pos succeeded]
          exact .reached (reached_ok.mpr ⟨run, rfl, succeeded⟩)
        · rw [if_neg succeeded]
          obtain ⟨c, reported, known⟩ := PipelineRun.done_iff.mp final
          have failed : c.status ≠ "True" := fun holds =>
            succeeded (PipelineRun.succeeded_iff.mpr ⟨c, reported, holds⟩)
          have reason : (PipelineRun.summary run).reason = c.reason := by
            simp [PipelineRun.summary, PipelineRun.verdict?, succeededType, reported]
          refine .fatal ⟨_, run, c, rfl, rfl, reported, known, failed, ?_⟩ (Or.inr ⟨run, rfl⟩)
          rw [← reason]
          exact w.pipelineFailure_fst run t
      · rw [if_pos final]
        refine .neither ?_ ?_
        · rintro ⟨_, ⟨⟩, _, ⟨⟩, awaited⟩
          exact final (Condition.known_of_holds awaited)
        · rintro _ ⟨_, _, c, ⟨⟩, ⟨⟩, reported, known, _⟩
          exact final (PipelineRun.done_iff.mpr ⟨c, reported, known⟩)

theorem judged_build (component application ns : String) (s : σ) :
    Judged w (.build component application ns) (((build component application ns).look w).run s).1
      (((build component application ns).look w).run s).2
      (w.componentBuilt component application ns s) := by
  obtain ⟨found, firstOf, reads, ran⟩ := componentPipeline_first w component application ns s
  unfold World.componentBuilt Session.attempt
  rw [stateM_bind_apply, ran]
  generalize ((build component application ns).look w).run s = listed at firstOf reads
  obtain ⟨listed, t⟩ := listed
  cases found with
  | error cause =>
      have words : _ = cause.message := reads
      dsimp only
      rw [← words]
      refine .neither ?_ ?_
      · rintro ⟨_, same, run, _, first, _⟩
        exact firstOf.head?_ne same run first
      · rintro _ ⟨_, run, _, same, first, _⟩
        exact firstOf.head?_ne same run first
  | ok run =>
      obtain ⟨rest, rfl⟩ := (firstOf run).mp rfl
      dsimp only
      rw [BuildVerdict.of_eq]
      cases decided : Condition.decisive? (PipelineRun.conditions run) with
      | none =>
          refine .neither ?_ ?_
          · rintro ⟨_, ⟨⟩, _, _, ⟨⟩, decisive, _⟩
            cases decided.symm.trans decisive
          · rintro _ ⟨_, _, _, ⟨⟩, ⟨⟩, decisive, _⟩
            cases decided.symm.trans decisive
      | some c =>
          dsimp only
          by_cases failed : c.reason = "Failed"
          · rw [if_pos failed]
            exact .fatal ⟨_, run, c, rfl, rfl, decided, failed, w.pipelineFailure_fst run t⟩
              (Or.inr ⟨run, rfl⟩)
          · rw [if_neg failed]
            exact .reached (reached_ok.mpr ⟨run, c, rfl, decided, failed⟩)

theorem judged_signup (username : String) (s : σ) :
    Judged w (.signup username) ((w.get UserSignup hostNamespace username).run s).1
      ((w.get UserSignup hostNamespace username).run s).2 (w.signupComplete username s) := by
  unfold World.signupComplete Session.attempt
  rw [stateM_bind_apply]
  generalize (w.get UserSignup hostNamespace username).run s = looked
  obtain ⟨_ | found, t⟩ := looked
  · exact .fatal rfl (Or.inl rfl)
  · dsimp only
    by_cases complete : Condition.holds (UserSignup.conditions found) "Complete" = true
    · rw [if_pos complete]
      exact .reached (reached_ok.mpr complete)
    · rw [if_neg complete]
      refine .neither (mt reached_ok.mp complete) ?_
      nofun

/-- Every evaluation is decided by its look-up. -/
theorem judged (wait : Wait) (s : σ) :
    Judged w wait ((wait.look w).run s).1 ((wait.look w).run s).2 (wait.condition w s) := by
  cases wait with
  | pod ns name state timeout => exact judged_pod w ns name state timeout s
  | account ns => exact judged_account w ns s
  | build component application ns => exact judged_build w component application ns s
  | test scenario snapshot ns => exact judged_test w scenario snapshot ns s
  | releaseRun managed name ns timeout => exact judged_releaseRun w managed name ns timeout s
  | release name ns timeout => exact judged_release w name ns timeout s
  | signup username => exact judged_signup w username s

section

variable {w}
variable {wait : Wait} {looked : Except Error wait.Subject} {s : σ} {found : Finding Error × σ}

theorem Judged.check_eq_done (judged : Judged w wait looked s found) :
    found.1.check = .done ↔ wait.Reached looked := by
  cases judged with
  | reached reached => exact ⟨fun _ => reached, fun _ => rfl⟩
  | fatal fatal _ => exact ⟨nofun, fun reached => (reached.not_fatal fatal).elim⟩
  | neither notReached _ => exact ⟨nofun, fun reached => (notReached reached).elim⟩

theorem Judged.check_eq_failed (judged : Judged w wait looked s found) {cause : Error} :
    found.1.check = .failed cause ↔ wait.Fatal w looked s cause := by
  cases judged with
  | reached reached => exact ⟨nofun, fun fatal => (reached.not_fatal fatal).elim⟩
  | fatal fatal _ =>
      constructor
      · intro same
        cases same
        exact fatal
      · exact fun other => congrArg Check.failed (fatal.unique other)
  | neither _ notFatal => exact ⟨nofun, fun fatal => (notFatal cause fatal).elim⟩

theorem Judged.check_eq_pending (judged : Judged w wait looked s found) :
    found.1.check = .pending ↔
      ¬ wait.Reached looked ∧ ∀ cause, ¬ wait.Fatal w looked s cause := by
  cases judged with
  | reached reached => exact ⟨nofun, fun neither => (neither.1 reached).elim⟩
  | fatal fatal _ => exact ⟨nofun, fun neither => (neither.2 _ fatal).elim⟩
  | neither notReached notFatal => exact ⟨fun _ => ⟨notReached, notFatal⟩, fun _ => rfl⟩

/-- An evaluation that decides nothing records what its look-up showed. -/
theorem Judged.seen_of_pending (judged : Judged w wait looked s found)
    (pending : found.1.check = .pending) : found.1.seen = some (wait.observed looked) := by
  cases judged with
  | reached => cases pending
  | fatal => cases pending
  | neither => rfl

/-- An evaluation that sees the awaited state ends with its look-up. -/
theorem Judged.state_of_done (judged : Judged w wait looked s found)
    (done : found.1.check = .done) : found.2 = s := by
  cases judged with
  | reached => rfl
  | fatal => cases done
  | neither => rfl

/-- An evaluation that decides nothing ends with its look-up. -/
theorem Judged.state_of_pending (judged : Judged w wait looked s found)
    (pending : found.1.check = .pending) : found.2 = s := by
  cases judged with
  | reached => rfl
  | fatal => cases pending
  | neither => rfl

end

/-! ## Requests of an evaluation -/

variable {w} {R : σ → σ → Prop}

theorem leads_look (onward : w.Onward R) (wait : Wait) : Leads R (wait.look w).run := by
  cases wait with
  | pod ns name => exact onward.leads_get ns name
  | account ns => exact onward.leads_getOpt ns pipelineAccount
  | build component application ns => exact onward.leads_list ns _
  | test scenario snapshot ns => exact onward.leads_list ns _
  | releaseRun managed name ns => exact onward.leads_list managed _
  | release name ns => exact onward.leads_get ns name
  | signup username => exact onward.leads_get hostNamespace username

/-- An evaluation looks up and, if the look-up rules the awaited state out, may collect logs. -/
theorem leads_condition (onward : w.Onward R) (wait : Wait) : Leads R (wait.condition w) := by
  intro s
  have looked := leads_look onward wait s
  generalize evaluated : wait.condition w s = found
  have judged := wait.judged w s
  rw [evaluated] at judged
  cases judged with
  | reached => exact looked
  | fatal _ reported =>
      rcases reported with rfl | ⟨run, rfl⟩
      · exact looked
      · exact onward.trans looked (onward.leads_pipelineFailure run _)
  | neither => exact looked

end Wait

end ClusterHarness
