import ClusterHarness.Proofs.Platform.Verdicts

/-!
# What a finished build wait says of the build

The wait for a build looks at all conditions of a run, and the first one that is true or has failed
decides; everything else judges a run by its condition `Succeeded`.  The wait can end well on a run
that has not succeeded, and the conditions for which it does are said here exactly.
-/

namespace ClusterHarness

open Polling

variable {σ : Type}

namespace Condition

/-- The first condition that is true or has failed is true and has not failed, but the run has not
succeeded: its condition `Succeeded` is not true where it is listed before, nor where it is first
listed after one of another type. -/
def Misleading (conditions : List Condition) : Prop :=
  ∃ before c after, conditions = before ++ c :: after ∧
    (∀ b ∈ before, b.status ≠ "True" ∧ b.reason ≠ "Failed") ∧
    c.status = "True" ∧ c.reason ≠ "Failed" ∧
    ((∃ b ∈ before, b.type = "Succeeded") ∨
      (c.type ≠ "Succeeded" ∧ ¬ holds after "Succeeded" = true))

theorem decisive?_eq_some {conditions : List Condition} {c : Condition} :
    decisive? conditions = some c ↔
      (c.reason = "Failed" ∨ c.status = "True") ∧ ∃ before after,
        conditions = before ++ c :: after ∧
        ∀ b ∈ before, b.status ≠ "True" ∧ b.reason ≠ "Failed" := by
  simp [decisive?, List.find?_eq_some_iff_append, isTrue, and_comm]

theorem holds_cons (c : Condition) (rest : List Condition) (type : String) :
    holds (c :: rest) type = if c.type = type then c.isTrue else holds rest type := by
  by_cases same : c.type = type <;> simp [holds, find?, same]

/-- Behind conditions that are not true a type holds if it holds there and none of them is of that
type. -/
theorem holds_append {before rest : List Condition} (type : String)
    (untrue : ∀ b ∈ before, b.status ≠ "True") :
    holds (before ++ rest) type = true ↔
      (∀ b ∈ before, b.type ≠ type) ∧ holds rest type = true := by
  induction before with
  | nil => simp
  | cons b before ih =>
      have later := ih fun other here => untrue other (List.mem_cons_of_mem b here)
      have status : b.isTrue = false := by
        simpa [isTrue] using untrue b (List.mem_cons_self ..)
      rw [List.cons_append, holds_cons]
      by_cases same : b.type = type
      · simp [same, status]
      · simp [same, later]

/-- The build wait takes conditions for success, although the run has not succeeded, exactly where
they mislead. -/
theorem misleading_iff {conditions : List Condition} :
    Misleading conditions ↔
      (∃ c, decisive? conditions = some c ∧ c.reason ≠ "Failed") ∧
        ¬ holds conditions "Succeeded" = true := by
  constructor
  · rintro ⟨before, c, after, rfl, earlier, holds, sound, misled⟩
    refine ⟨⟨c, decisive?_eq_some.mpr ⟨Or.inr holds, before, after, rfl, earlier⟩, sound⟩, ?_⟩
    rw [holds_append _ fun b here => (earlier b here).1, holds_cons]
    rintro ⟨none, succeeded⟩
    rcases misled with ⟨b, here, type⟩ | ⟨type, failed⟩
    · exact none b here type
    · rw [if_neg type] at succeeded
      exact failed succeeded
  · rintro ⟨⟨c, decided, sound⟩, failed⟩
    obtain ⟨final, before, after, rfl, earlier⟩ := decisive?_eq_some.mp decided
    have holds : c.status = "True" := final.resolve_left sound
    refine ⟨before, c, after, rfl, earlier, holds, sound, ?_⟩
    by_cases listed : ∃ b ∈ before, b.type = "Succeeded"
    · exact Or.inl listed
    · have none : ∀ b ∈ before, b.type ≠ "Succeeded" := fun b here type => listed ⟨b, here, type⟩
      rw [holds_append _ fun b here => (earlier b here).1, holds_cons] at failed
      by_cases type : c.type = "Succeeded"
      · rw [if_pos type] at failed
        exact absurd ⟨none, beq_iff_eq.mpr holds⟩ failed
      · rw [if_neg type] at failed
        exact Or.inr ⟨type, fun succeeded => failed ⟨none, succeeded⟩⟩

end Condition

namespace Wait

/-! ## The promise of the build wait -/

/-- The run that is listed first. -/
def Lists (listed : Except Error (List PipelineRun)) (run : PipelineRun) : Prop :=
  ∃ rest, listed = .ok (run :: rest)

/-- If the wait for a build ends well, the run found by its last evaluation has succeeded. -/
def PromisesSuccess (w : World σ) (component application ns : String) (s : σ) : Prop :=
  (build component application ns).result w s = .ok () →
    ∀ k, (build component application ns).Made w s k →
      ¬ (build component application ns).Made w s (k + 1) →
      ∃ run, Lists ((build component application ns).looks w s k).1 run ∧
        PipelineRun.succeeded run = true

section

variable {w : World σ} {s : σ}

theorem Made.earlier {wait : Wait} {j k : Nat} (made : wait.Made w s k) (before : j < k) :
    wait.Made w s (j + 1) :=
  ⟨fun unlimited => Nat.lt_of_le_of_lt before (made.1 unlimited),
    fun i notAfter => made.2 i (Nat.lt_of_lt_of_le notAfter before)⟩

/-- The evaluation that sees the awaited state is the last one. -/
theorem ReachedAt.not_made_succ {wait : Wait} {k : Nat} (reached : wait.ReachedAt w s k) :
    ¬ wait.Made w s (k + 1) := fun made =>
  (made.2 k (Nat.lt_succ_self k)).1.1 reached

theorem ReachedAt.last_unique {wait : Wait} {j k : Nat} (made : wait.Made w s j)
    (reached : wait.ReachedAt w s j) (last : wait.Made w s k) (final : ¬ wait.Made w s (k + 1)) :
    k = j := by
  rcases Nat.lt_trichotomy k j with before | same | after
  · exact absurd (made.earlier before) final
  · exact same
  · exact absurd reached (last.2 j after).1.1

end

/-- A build wait keeps its promise exactly if no evaluation comes upon a run listed first whose
conditions mislead. -/
theorem promisesSuccess_iff (w : World σ) (timely : w.Timely) (component application ns : String)
    (s : σ) :
    PromisesSuccess w component application ns s ↔
      ¬ ∃ k run, (build component application ns).Made w s k ∧
        Lists ((build component application ns).looks w s k).1 run ∧
        Condition.Misleading (PipelineRun.conditions run) := by
  constructor
  · rintro promise ⟨k, run, made, ⟨rest, listed⟩, misleading⟩
    obtain ⟨⟨c, decided, sound⟩, failed⟩ := Condition.misleading_iff.mp misleading
    have reached : (build component application ns).ReachedAt w s k :=
      ⟨_, listed, run, c, rfl, decided, sound⟩
    have returned := (result_eq_ok timely).mpr ⟨k, made, reached⟩
    obtain ⟨other, ⟨_, same⟩, succeeded⟩ := promise returned k made reached.not_made_succ
    cases listed.symm.trans same
    exact failed succeeded
  · intro straight returned k last final
    obtain ⟨j, made, reached⟩ := (result_eq_ok timely).mp returned
    obtain rfl := reached.last_unique made last final
    obtain ⟨runs, listed, run, c, first, decided, sound⟩ := reached
    obtain ⟨rest, rfl⟩ := List.head?_eq_some_iff.mp first
    refine ⟨run, ⟨rest, listed⟩, ?_⟩
    by_cases succeeded : PipelineRun.succeeded run = true
    · exact succeeded
    · exact absurd ⟨k, run, last, ⟨rest, listed⟩,
        Condition.misleading_iff.mpr ⟨⟨c, decided, sound⟩, succeeded⟩⟩ straight

end Wait

namespace Rehearsal

def listing (conditions : String) : World ClusterState :=
  cluster [.showing ("\x7b\"items\":[\x7b\"status\":\x7b\"conditions\":[" ++ conditions ++
    "]\x7d\x7d]\x7d")] (.missing []) ⟨⟨2023, 3, 1⟩, 0, 0, 0⟩

def buildWait : Wait := .build "component" "application" "test"

/-- The first look-up lists a run that ends the wait well and passes a test. -/
def endsWell (world : World ClusterState) (test : PipelineRun → Bool) : Bool :=
  match ((buildWait.look world).run ⟨0, []⟩).1 with
  | .ok (run :: _) => BuildVerdict.of (PipelineRun.conditions run) = .succeeded ∧ test run
  | _ => false

theorem endsWell_spec {world : World ClusterState} {test : PipelineRun → Bool}
    (well : endsWell world test = true) :
    ∃ run, Wait.Lists (buildWait.looks world ⟨0, []⟩ 0).1 run ∧ test run = true ∧
      buildWait.ReachedAt world ⟨0, []⟩ 0 := by
  unfold endsWell at well
  split at well
  · next run rest listed =>
      obtain ⟨succeeded, passed⟩ := of_decide_eq_true well
      rw [BuildVerdict.of_eq] at succeeded
      split at succeeded
      · cases succeeded
      · next c decided =>
          split at succeeded
          · cases succeeded
          · next sound =>
              exact ⟨run, ⟨rest, listed⟩, passed, _, listed, run, c, rfl, decided, sound⟩
  · cases well

def succeededRun : World ClusterState :=
  listing "\x7b\"type\":\"Succeeded\",\"status\":\"True\"\x7d"

theorem succeededRun_promisesSuccess :
    succeededRun.Timely ∧
      Wait.PromisesSuccess succeededRun "component" "application" "test" ⟨0, []⟩ := by
  have timely : succeededRun.Timely := cluster_timely _ _ _
  have well : endsWell succeededRun PipelineRun.succeeded = true := by decide +kernel
  obtain ⟨run, ⟨rest, listed⟩, succeeded, reached⟩ := endsWell_spec well
  refine ⟨timely, (Wait.promisesSuccess_iff _ timely _ _ _ _).mpr ?_⟩
  rintro ⟨k, other, made, ⟨_, same⟩, misleading⟩
  rcases Nat.eq_zero_or_pos k with rfl | later
  · cases listed.symm.trans same
    exact (Condition.misleading_iff.mp misleading).2 succeeded
  · exact (made.2 0 later).1.1 reached

def readyRun : World ClusterState :=
  listing ("\x7b\"type\":\"Ready\",\"status\":\"True\"\x7d," ++
    "\x7b\"type\":\"Succeeded\",\"status\":\"Unknown\",\"reason\":\"Running\"\x7d")

theorem readyRun_not_promisesSuccess :
    buildWait.result readyRun ⟨0, []⟩ = .ok () ∧
      ¬ Wait.PromisesSuccess readyRun "component" "application" "test" ⟨0, []⟩ := by
  have well : endsWell readyRun (fun run => !PipelineRun.succeeded run) = true := by
    decide +kernel
  obtain ⟨run, ⟨rest, listed⟩, running, reached⟩ := endsWell_spec well
  have first : buildWait.Made readyRun ⟨0, []⟩ 0 := ⟨fun _ => by decide, nofun⟩
  have returned := (Wait.result_eq_ok (cluster_timely _ _ _)).mpr ⟨0, first, reached⟩
  refine ⟨returned, fun promise => ?_⟩
  obtain ⟨other, ⟨_, same⟩, succeeded⟩ := promise returned 0 first reached.not_made_succ
  cases listed.symm.trans same
  rw [succeeded] at running
  cases running

end Rehearsal

end ClusterHarness
