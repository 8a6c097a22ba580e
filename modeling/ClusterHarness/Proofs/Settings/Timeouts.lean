import ClusterHarness.Proofs.Duration.Reading
import ClusterHarness.Proofs.Polling.Outcome
import ClusterHarness.Settings

/-!
# Timeouts from the environment

An environment is refused for one of its durations, or its timeouts are deadlines of all polls that
are set up with them.  The one exception is a duration that comes to 2⁶⁴ seconds exactly: adding it
up fails before it can be refused.
-/

namespace ClusterHarness

namespace Settings

def durationVariables : List String := ["E2E_DEFAULT_TIMEOUT", "E2E_PIPELINE_TIMEOUT"]

/-- The value of a variable is set and too long for a duration. -/
def Overruns (env : Environment) (name : String) : Prop :=
  ∃ value, env.nonBlank? name = some value ∧ Duration.Overruns (Text.trim value.toList)

/-- What becomes of a variable that holds a duration. -/
inductive Outcome (env : Environment) (name : String) (default_ : Nat) : Except Fault Nat → Prop where
  | absent (unset : env.nonBlank? name = none) : Outcome env name default_ (.ok default_)
  | given {value : String} {d : Nat} (isSet : env.nonBlank? name = some value) (positive : 0 < d) :
      Outcome env name default_ (.ok d)
  | refused {value reason : String} (isSet : env.nonBlank? name = some value) :
      Outcome env name default_ (.error (.refused (.invalidConfig name reason)))
  | overrun (overruns : Overruns env name) :
      Outcome env name default_ (.error (.overflow Duration.ReadError.tooLong.message))

theorem outcome_duration (env : Environment) (name : String) (default_ : Nat) :
    Outcome env name default_ (duration env name default_) := by
  unfold duration
  cases found : env.nonBlank? name with
  | none => exact .absent found
  | some value =>
      dsimp only
      cases read : Duration.read (Text.trim value.toList) with
      | ok d =>
          cases d with
          | zero => exact .refused found
          | succ d => exact .given found d.succ_pos
      | error cause =>
          cases cause with
          | tooLong => exact .overrun ⟨value, found, Duration.read_eq_tooLong.mp read⟩
          | _ => exact .refused found

theorem duration_of_overruns {env : Environment} {name : String} (default_ : Nat)
    (overruns : Overruns env name) :
    duration env name default_ = .error (.overflow Duration.ReadError.tooLong.message) := by
  obtain ⟨value, found, overruns⟩ := overruns
  unfold duration
  rw [found]
  dsimp only
  rw [Duration.read_eq_tooLong.mpr overruns]

/-- A timeout that is a deadline of all polls at a positive interval that are set up with it. -/
structure Deadline (timeout : Nat) : Prop where
  positive : 0 < timeout
  accepted : ∀ interval, 0 < interval → ∃ spec, Polling.Spec.every interval timeout = .ok spec
  ends : ∀ spec, Polling.Spec.Made timeout spec → spec.timeout = some timeout

theorem Deadline.of_pos {timeout : Nat} (positive : 0 < timeout) : Deadline timeout where
  positive := positive
  accepted _ some := ⟨_, dif_pos some⟩
  ends _ made := made.timeout_eq.trans (if_neg (Nat.ne_of_gt positive))

theorem Outcome.deadline {env : Environment} {name : String} {default_ d : Nat}
    (outcome : Outcome env name default_ (.ok d)) (positive : 0 < default_) : Deadline d := by
  cases outcome with
  | absent => exact .of_pos positive
  | given _ positive => exact .of_pos positive

/-- An environment is refused for a duration that it sets, or its timeouts are deadlines. -/
def Answers (env : Environment) : Prop :=
  (∃ name reason value, ofEnvironment env = .error (.refused (.invalidConfig name reason)) ∧
      name ∈ durationVariables ∧ env.nonBlank? name = some value) ∨
    ∃ settings, ofEnvironment env = .ok settings ∧
      Deadline settings.defaultTimeout ∧ Deadline settings.pipelineTimeout

def FirstOverruns (env : Environment) : Prop :=
  Overruns env "E2E_DEFAULT_TIMEOUT" ∨
    (∃ d, duration env "E2E_DEFAULT_TIMEOUT" (Duration.ofSecs 120) = .ok d) ∧
      Overruns env "E2E_PIPELINE_TIMEOUT"

section Environment

variable {env : Environment}

theorem ofEnvironment_of_overruns (overruns : FirstOverruns env) :
    ofEnvironment env = .error (.overflow Duration.ReadError.tooLong.message) := by
  unfold ofEnvironment
  rcases overruns with first | ⟨⟨d, accepted⟩, second⟩
  · rw [duration_of_overruns _ first]
    rfl
  · rw [accepted, duration_of_overruns _ second]
    rfl

theorem answers_of_not_overruns (within : ¬FirstOverruns env) : Answers env := by
  unfold Answers ofEnvironment
  have first := outcome_duration env "E2E_DEFAULT_TIMEOUT" (Duration.ofSecs 120)
  have second := outcome_duration env "E2E_PIPELINE_TIMEOUT" (Duration.ofSecs 600)
  cases accepted : duration env "E2E_DEFAULT_TIMEOUT" (Duration.ofSecs 120) with
  | error fault =>
      rw [accepted] at first
      cases first with
      | refused found => exact Or.inl ⟨_, _, _, rfl, List.mem_cons_self, found⟩
      | overrun overruns => exact absurd (Or.inl overruns) within
  | ok d =>
      rw [accepted] at first
      cases also : duration env "E2E_PIPELINE_TIMEOUT" (Duration.ofSecs 600) with
      | error fault =>
          rw [also] at second
          cases second with
          | refused found => exact Or.inl ⟨_, _, _, rfl, by decide, found⟩
          | overrun overruns => exact absurd (Or.inr ⟨⟨d, accepted⟩, overruns⟩) within
      | ok p =>
          rw [also] at second
          exact Or.inr ⟨_, rfl, first.deadline (by decide), second.deadline (by decide)⟩

theorem Answers.ne_overflow (answers : Answers env) (message : String) :
    ofEnvironment env ≠ .error (.overflow message) := by
  intro overflow
  rcases answers with ⟨_, _, _, refused, _⟩ | ⟨_, made, _⟩
  · cases refused.symm.trans overflow
  · cases made.symm.trans overflow

end Environment

/-- An environment is answered as it should be unless one of its durations overruns; then, and only
then, adding up fails. -/
theorem answers_unless_overruns (env : Environment) :
    (Answers env ↔ ¬FirstOverruns env) ∧
      ((∃ message, ofEnvironment env = .error (.overflow message)) ↔ FirstOverruns env) := by
  constructor
  · constructor
    · intro answers overruns
      exact answers.ne_overflow _ (ofEnvironment_of_overruns overruns)
    · exact answers_of_not_overruns
  · constructor
    · rintro ⟨message, overflow⟩
      by_contra within
      exact (answers_of_not_overruns within).ne_overflow message overflow
    · exact fun overruns => ⟨_, ofEnvironment_of_overruns overruns⟩

def overlong : Environment := [("E2E_DEFAULT_TIMEOUT", "18446744073709551615s 1000ms")]

/-- The overlong duration is not refused. -/
theorem not_answers_overlong : ¬Answers overlong := by
  intro answers
  have overflow : duration overlong "E2E_DEFAULT_TIMEOUT" (Duration.ofSecs 120) =
      .error (.overflow Duration.ReadError.tooLong.message) := by decide +kernel
  refine answers.ne_overflow Duration.ReadError.tooLong.message ?_
  unfold ofEnvironment
  rw [overflow]
  rfl

end Settings

end ClusterHarness
