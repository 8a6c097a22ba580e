import ClusterHarness.Proofs.Platform.Builds

/-!
# The run that a release wait hands out

The wait for the run of a release ends with a look-up that shows the run started and succeeded.
The run that is handed out is not that one: it is looked up once more, and nobody judges it again.
So it has succeeded unless another run, or another status of the same run, is listed in between.
-/

namespace ClusterHarness

open Polling

variable {σ : Type}

/-! ## Waits that return -/

namespace Wait

variable {wait : Wait} {w : World σ} {s t : σ}

/-- A wait returns exactly with an evaluation that sees the awaited state, in the state that the
look-up of this one leaves behind. -/
theorem session_eq_ok (timely : w.Timely) :
    (wait.session w).run s = (.ok (), t) ↔
      ∃ k, wait.Made w s k ∧ wait.ReachedAt w s k ∧ (wait.looks w s k).2 = t := by
  constructor
  · intro returned
    have result : wait.result w s = .ok () := congrArg Prod.fst returned
    obtain ⟨k, made, reached⟩ := (result_eq_ok timely).mp result
    have ended := session_of_made timely made (verdict_eq_success.mpr reached)
    refine ⟨k, made, reached, ?_⟩
    rw [← reached.leaves_eq]
    exact congrArg Prod.snd (ended.symm.trans returned)
  · rintro ⟨k, made, reached, rfl⟩
    rw [session_of_made timely made (verdict_eq_success.mpr reached), reached.leaves_eq]
    rfl

end Wait

/-! ## The second look-up -/

namespace PipelineRun

/-- The run has started and succeeded. -/
def Fine (run : PipelineRun) : Prop := started run = true ∧ succeeded run = true

/-- A run that has succeeded is done. -/
theorem done_of_succeeded {run : PipelineRun} (fine : succeeded run = true) : done run = true :=
  Condition.known_of_holds fine

end PipelineRun

namespace World

variable {w : World σ} {managed release ns : String} {timeout : Nat} {s : σ}

/-- If a run is handed out, it has started, is done and has succeeded. -/
def HandsOutSuccess (w : World σ) (managed release ns : String) (timeout : Nat) (s : σ) : Prop :=
  ∀ run t, (w.waitForReleaseRun managed release ns timeout).run s = (.ok run, t) →
    PipelineRun.started run = true ∧ PipelineRun.done run = true ∧ PipelineRun.succeeded run = true

/-- What is listed when the run is looked up again after an evaluation of the wait. -/
def listedAfter (w : World σ) (managed release ns : String) (timeout : Nat) (s : σ) (k : Nat) :
    Except Error (List PipelineRun) :=
  (((Wait.releaseRun managed release ns timeout).look w).run
    ((Wait.releaseRun managed release ns timeout).looks w s k).2).1

theorem releaseRun_eq_ok {run : PipelineRun} (timeout : Nat) :
    ((w.releaseRun managed release ns).run s).1 = .ok run ↔
      Wait.Lists (((Wait.releaseRun managed release ns timeout).look w).run s).1 run := by
  obtain ⟨found, first, _, ran⟩ := Wait.releaseRun_first w managed release ns timeout s
  rw [ran]
  exact first run

/-- A run is handed out exactly if an evaluation of the wait sees a run that has started and
succeeded, and the run is the first of those listed right after. -/
theorem waitForReleaseRun_eq_ok (timely : w.Timely) {run : PipelineRun} :
    ((w.waitForReleaseRun managed release ns timeout).run s).1 = .ok run ↔
      ∃ k, (Wait.releaseRun managed release ns timeout).Made w s k ∧
        (Wait.releaseRun managed release ns timeout).ReachedAt w s k ∧
        Wait.Lists (w.listedAfter managed release ns timeout s k) run := by
  constructor
  · intro returned
    have ran : (w.waitForReleaseRun managed release ns timeout).run s =
        (.ok run, ((w.waitForReleaseRun managed release ns timeout).run s).2) :=
      Prod.ext returned rfl
    obtain ⟨_, between, awaited, again⟩ := exceptT_run_bind_eq_ok.mp ran
    have waited : ((Wait.releaseRun managed release ns timeout).session w).run s =
      (.ok (), between) := awaited
    obtain ⟨k, made, reached, rfl⟩ := (Wait.session_eq_ok timely).mp waited
    exact ⟨k, made, reached, (releaseRun_eq_ok timeout).mp (congrArg Prod.fst again)⟩
  · rintro ⟨k, made, reached, listed⟩
    have waited : (w.awaitReleaseRun managed release ns timeout).run s = (.ok (), _) :=
      (Wait.session_eq_ok timely).mpr ⟨k, made, reached, rfl⟩
    have again := (releaseRun_eq_ok timeout).mpr listed
    unfold waitForReleaseRun
    rw [exceptT_run_bind, waited]
    exact again

/-- Right after an evaluation that ends the wait a run is listed first that has not started or not
succeeded. -/
def Supplants (w : World σ) (managed release ns : String) (timeout : Nat) (s : σ)
    (run : PipelineRun) : Prop :=
  ∃ k, (Wait.releaseRun managed release ns timeout).Made w s k ∧
    (Wait.releaseRun managed release ns timeout).ReachedAt w s k ∧
    Wait.Lists (w.listedAfter managed release ns timeout s k) run ∧ ¬ PipelineRun.Fine run

/-- The run handed out is a success exactly if no other run or status supplants the one that the
wait has seen. -/
theorem handsOutSuccess_iff (w : World σ) (timely : w.Timely) (managed release ns : String)
    (timeout : Nat) (s : σ) :
    HandsOutSuccess w managed release ns timeout s ↔
      ¬ ∃ run, Supplants w managed release ns timeout s run := by
  constructor
  · rintro promise ⟨run, k, made, reached, listed, unfit⟩
    have returned := (waitForReleaseRun_eq_ok timely).mpr ⟨k, made, reached, listed⟩
    obtain ⟨started, _, succeeded⟩ := promise run _ (Prod.ext returned rfl)
    exact unfit ⟨started, succeeded⟩
  · intro steady run t returned
    obtain ⟨k, made, reached, listed⟩ :=
      (waitForReleaseRun_eq_ok timely).mp (congrArg Prod.fst returned)
    by_cases fine : PipelineRun.Fine run
    · exact ⟨fine.1, PipelineRun.done_of_succeeded fine.2, fine.2⟩
    · exact absurd ⟨run, k, made, reached, listed, fine⟩ steady

end World

namespace Rehearsal

def noRun : Reply := .showing "\x7b\"items\":[]\x7d"

def newRun : Reply := .showing "\x7b\"items\":[\x7b\x7d]\x7d"

def fineRun : Reply :=
  .showing ("\x7b\"items\":[\x7b\"status\":\x7b\"startTime\":\"2020-01-01T00:00:00Z\"," ++
    "\"conditions\":[\x7b\"type\":\"Succeeded\",\"status\":\"True\"\x7d]\x7d\x7d]\x7d")

def releaseServer (script : List Reply) : World ClusterState :=
  cluster script (.missing []) ⟨⟨2023, 3, 1⟩, 0, 0, 0⟩

def handingOut (server : World ClusterState) : Except Error PipelineRun × ClusterState :=
  (server.waitForReleaseRun "managed" "release" "dev" (Duration.ofSecs 3)).run ⟨0, []⟩

/-- Whether the run that is handed out, if one is, has started, is done and has succeeded. -/
def handedOut (server : World ClusterState) : Option Bool :=
  (handingOut server).1.toOption.map fun run =>
    PipelineRun.started run && PipelineRun.done run && PipelineRun.succeeded run

theorem handedOut_spec {server : World ClusterState} {fine : Bool}
    (seen : handedOut server = some fine) :
    ∃ run t, handingOut server = (.ok run, t) ∧
      (PipelineRun.started run && PipelineRun.done run && PipelineRun.succeeded run) = fine := by
  unfold handedOut at seen
  generalize handingOut server = outcome at seen
  obtain ⟨cause | run, t⟩ := outcome
  · cases seen
  · exact ⟨run, t, rfl, Option.some.inj seen⟩

/-- A server that lists no run at first and then one that has succeeded, as often as asked. -/
def steadyServer : World ClusterState := releaseServer [noRun, fineRun]

theorem steadyServer_handsOutSuccess :
    steadyServer.Timely ∧
      steadyServer.HandsOutSuccess "managed" "release" "dev" (Duration.ofSecs 3) ⟨0, []⟩ ∧
      ¬ ∃ run, steadyServer.Supplants "managed" "release" "dev" (Duration.ofSecs 3) ⟨0, []⟩ run := by
  have timely : steadyServer.Timely := cluster_timely _ _ _
  have seen : handedOut steadyServer = some true := by decide +kernel
  have promise :
      steadyServer.HandsOutSuccess "managed" "release" "dev" (Duration.ofSecs 3) ⟨0, []⟩ := by
    intro run t returned
    obtain ⟨other, last, same, fine⟩ := handedOut_spec seen
    cases same.symm.trans returned
    simpa [and_assoc] using fine
  exact ⟨timely, promise,
    (World.handsOutSuccess_iff steadyServer timely "managed" "release" "dev" _ _).mp promise⟩

/-- A server that lists a new run first as soon as it has listed one that has succeeded. -/
def supplantingServer : World ClusterState := releaseServer [fineRun, newRun]

theorem supplantingServer_not_handsOutSuccess :
    ¬ supplantingServer.HandsOutSuccess "managed" "release" "dev" (Duration.ofSecs 3) ⟨0, []⟩ := by
  have seen : handedOut supplantingServer = some false := by decide +kernel
  obtain ⟨run, t, returned, unfit⟩ := handedOut_spec seen
  intro promise
  obtain ⟨started, done, succeeded⟩ := promise run t returned
  rw [started, done, succeeded] at unfit
  cases unfit

end Rehearsal

end ClusterHarness
