import ClusterHarness.Proofs.Host.Journaled
import Mathlib.Data.ENat.Lattice

/-!
# How often an errand is tried

An errand that fails is tried again after a warning and a pause, until it succeeds or as many
attempts have been made as there may be; one is made in any case.  The warnings are numbered by the
calls that failed, and the counter stays within a word of 32 bits if the number of attempts does.
-/

namespace ClusterHarness

variable {σ α : Type}

open Errand

def attemptNotice (attempts number : Nat) (failure : Failure) : Notice :=
  .warning ("Attempt " ++ Nat.repr number ++ "/" ++ Nat.repr attempts ++ " failed: "
    ++ failure.text)

/-- An errand that may be tried again from some state on. -/
structure Retrial (σ α : Type) where
  host : Host σ
  attempts : Nat
  delay : Nat
  errand : Errand σ α
  start : σ

namespace Retrial

/-- What is done in trying an errand: calls, and after a failed call a warning and a pause. -/
inductive Move (α : Type) where
  | call (result : Except Failure α)
  | warning (number : Nat) (failure : Failure)
  | pause

/-- The moves of calls that failed one after the other, the first one with a number, and of a last
call. -/
def Move.course (number : Nat) (failures : List Failure) (last : Except Failure α) :
    List (Move α) :=
  (failures.zipIdx number).flatMap (fun (failure, number) =>
    [.call (.error failure), .warning number failure, .pause]) ++ [.call last]

theorem Move.course_cons (number : Nat) (failure : Failure) (failures : List Failure)
    (last : Except Failure α) :
    course number (failure :: failures) last =
      .call (.error failure) :: .warning number failure :: .pause ::
        course (number + 1) failures last :=
  rfl

variable (r : Retrial σ α)

def recovered (number : Nat) (failure : Failure) (s : σ) : σ :=
  r.host.toClocked.sleep r.delay (r.host.told (attemptNotice r.attempts number failure) s)

/-- The state before a call, the first one being call 0, if the errand is tried for ever. -/
def before : Nat → σ
  | 0 => r.start
  | n + 1 =>
    match r.errand.run (before n) with
    | (.ok _, s) => s
    | (.error failure, s) => r.recovered (n + 1) failure s

def result (n : Nat) : Except Failure α := (r.errand.run (r.before n)).1

def after (n : Nat) : σ := (r.errand.run (r.before n)).2

/-- The position of the first call that succeeds, counted from 1; infinite if there is none. -/
noncomputable def firstSuccess : ℕ∞ := ⨅ (n : ℕ) (_ : (r.result n).isOk = true), (n + 1 : ℕ)

/-- Moves lead from one state to another. -/
inductive Leads : σ → List (Move α) → σ → Prop where
  | done {s : σ} : Leads s [] s
  | call {s t u : σ} {result : Except Failure α} {moves : List (Move α)}
      (ran : r.errand.run s = (result, t)) (others : Leads t moves u) :
      Leads s (.call result :: moves) u
  | warning {s u : σ} {number : Nat} {failure : Failure} {moves : List (Move α)}
      (others : Leads (r.host.told (attemptNotice r.attempts number failure) s) moves u) :
      Leads s (.warning number failure :: moves) u
  | pause {s u : σ} {moves : List (Move α)}
      (others : Leads (r.host.toClocked.sleep r.delay s) moves u) :
      Leads s (.pause :: moves) u

variable {r} {n : Nat} {failure : Failure}

theorem run_eq (r : Retrial σ α) (n : Nat) :
    r.errand.run (r.before n) = (r.result n, r.after n) :=
  rfl

theorem before_succ (failed : r.result n = .error failure) :
    r.before (n + 1) = r.recovered (n + 1) failure (r.after n) := by
  rw [before, run_eq, failed]

/-- One call and the pause after it, if there is one. -/
theorem run_retryFrom_succ (r : Retrial σ α) (left number : Nat) (s : σ) :
    (r.host.retryFrom r.attempts r.delay r.errand (left + 1) number).run s =
      match r.errand.run s with
      | (.ok value, t) => (.ok value, t)
      | (.error failure, t) =>
        (r.host.retryFrom r.attempts r.delay r.errand left (number + 1)).run
          (r.recovered number failure t) := by
  rw [Host.retryFrom, run_attempt_bind]
  cases r.errand.run s with
  | mk result t =>
      cases result with
      | ok value => rfl
      | error failure => rfl

/-- These calls failed, and the next one was the last: it succeeded, or no attempt was left. -/
structure Ends (r : Retrial σ α) (n left : Nat) (failures : List Failure) : Prop where
  within : failures.length ≤ left
  failed : ∀ i failure, failures[i]? = some failure → r.result (n + i) = .error failure
  last : (r.result (n + failures.length)).isOk = true ∨ failures.length = left

/-- A call that failed comes before those that end the trying from there on. -/
theorem Ends.cons {left : Nat} {failures : List Failure} (failed : r.result n = .error failure)
    (ends : r.Ends (n + 1) left failures) : r.Ends n (left + 1) (failure :: failures) where
  within := Nat.succ_le_succ ends.within
  failed i other found := by
    cases i with
    | zero =>
        cases found
        exact failed
    | succ i =>
        rw [show n + (i + 1) = n + 1 + i by omega]
        exact ends.failed i other found
  last := by
    rw [List.length_cons, show n + (failures.length + 1) = n + 1 + failures.length by omega]
    exact ends.last.imp id (congrArg Nat.succ)

/-- The induction is on the attempts that are left; the number of the next call goes up as they go
down. -/
theorem exists_ends (r : Retrial σ α) (left n : Nat) :
    ∃ failures, r.Ends n left failures ∧
      r.Leads (r.before n) (Move.course (n + 1) failures (r.result (n + failures.length)))
        (r.after (n + failures.length)) ∧
      (r.host.retryFrom r.attempts r.delay r.errand left (n + 1)).run (r.before n) =
        (r.result (n + failures.length), r.after (n + failures.length)) := by
  induction left generalizing n with
  | zero =>
      refine ⟨[], ⟨Nat.le_refl 0, nofun, .inr rfl⟩, .call (r.run_eq n) .done, ?_⟩
      rw [Host.retryFrom, run_eq]
      rfl
  | succ left ih =>
      rw [run_retryFrom_succ, run_eq]
      cases outcome : r.result n with
      | ok value =>
          have same : r.result (n + 0) = .ok value := outcome
          refine ⟨[], ⟨Nat.zero_le _, nofun, .inl ?_⟩, ?_, ?_⟩
          · rw [List.length_nil, same]
            rfl
          · exact .call (r.run_eq n) .done
          · rw [List.length_nil, same]
            rfl
      | error failure =>
          obtain ⟨failures, ends, leads, ran⟩ := ih (n + 1)
          rw [before_succ outcome] at leads ran
          rw [show n + 1 + failures.length = n + (failures.length + 1) by omega] at leads ran
          refine ⟨failure :: failures, ends.cons outcome, ?_, ran⟩
          rw [Move.course_cons]
          exact .call ((r.run_eq n).trans (congrArg (·, r.after n) outcome))
            (.warning (.pause leads))

/-! ## How many calls are made -/

theorem le_firstSuccess {m : Nat} (failed : ∀ n < m, (r.result n).isOk = false) :
    ((m + 1 : ℕ) : ℕ∞) ≤ r.firstSuccess := by
  refine le_iInf₂ fun n succeeds => Nat.cast_le.mpr (Nat.succ_le_succ ?_)
  by_contra early
  exact absurd succeeds (Bool.eq_false_iff.mp (failed n (Nat.lt_of_not_le early)))

theorem firstSuccess_le (succeeds : (r.result n).isOk = true) :
    r.firstSuccess ≤ ((n + 1 : ℕ) : ℕ∞) :=
  iInf₂_le n succeeds

namespace Ends

variable {left : Nat} {failures : List Failure} (ends : r.Ends 0 left failures)

include ends

theorem isOk_eq_false : ∀ n < failures.length, (r.result n).isOk = false := by
  intro n inside
  have fails := ends.failed n failures[n] (List.getElem?_eq_getElem inside)
  rw [Nat.zero_add] at fails
  rw [fails]
  rfl

/-- The last call is the first success, or the last one that there may be. -/
theorem length_eq :
    ((failures.length + 1 : ℕ) : ℕ∞) = min r.firstSuccess ((left + 1 : ℕ) : ℕ∞) := by
  have within : ((failures.length + 1 : ℕ) : ℕ∞) ≤ ((left + 1 : ℕ) : ℕ∞) :=
    Nat.cast_le.mpr (Nat.succ_le_succ ends.within)
  refine le_antisymm (le_min (le_firstSuccess ends.isOk_eq_false) within) ?_
  rcases ends.last with succeeds | full
  · rw [Nat.zero_add] at succeeds
    exact (min_le_left _ _).trans (firstSuccess_le succeeds)
  · rw [full]
    exact min_le_right _ _

/-- The last call succeeds exactly if a call succeeds that there may be. -/
theorem isOk_iff :
    (r.result failures.length).isOk = true ↔ r.firstSuccess ≤ ((left + 1 : ℕ) : ℕ∞) := by
  constructor
  · intro succeeds
    exact (firstSuccess_le succeeds).trans (Nat.cast_le.mpr (Nat.succ_le_succ ends.within))
  · intro reached
    by_contra fails
    have full : failures.length = left := ends.last.resolve_left fun succeeds => by
      rw [Nat.zero_add] at succeeds
      exact fails succeeds
    have none : ∀ n < left + 1, (r.result n).isOk = false := fun n inside => by
      rcases Nat.lt_succ_iff_lt_or_eq.mp inside with earlier | rfl
      · exact ends.isOk_eq_false n (full ▸ earlier)
      · exact Bool.eq_false_iff.mpr (full ▸ fails)
    have late := Nat.cast_le.mp ((le_firstSuccess none).trans reached)
    omega

end Ends

end Retrial

/-! ## The counter -/

/-- As long as the counter is below a bound it can be counted up. -/
theorem toNat_count_of_lt {count bound : UInt32} (below : count < bound) :
    (count + 1).toNat = count.toNat + 1 := by
  have small := UInt32.lt_iff_toNat_lt.mp below
  have limit := bound.toNat_lt
  rw [UInt32.toNat_add, UInt32.toNat_one, Nat.mod_eq_of_lt (by omega)]

namespace Host

/-- The same with the counter in a word of 32 bits, which is counted up after each pause. -/
def retryCounting (host : Host σ) (attempts : UInt32) (delay : Nat) (errand : Errand σ α)
    (count : UInt32) : Errand σ α := do
  match ← errand.attempt with
  | .ok value => return value
  | .error failure =>
    if below : count < attempts then
      host.tell (attemptNotice attempts.toNat count.toNat failure)
      ExceptT.mk fun s => (.ok (), host.toClocked.sleep delay s)
      host.retryCounting attempts delay errand (count + 1)
    else throw failure
  termination_by attempts.toNat - count.toNat
  decreasing_by
    have counted := toNat_count_of_lt below
    have small := UInt32.lt_iff_toNat_lt.mp below
    omega

theorem retryCounting_eq (host : Host σ) (attempts : UInt32) (delay : Nat) (errand : Errand σ α)
    (left : Nat) (count : UInt32) (counts : count.toNat + left = max count.toNat attempts.toNat) :
    host.retryCounting attempts delay errand count =
      host.retryFrom attempts.toNat delay errand left count.toNat := by
  induction left generalizing count with
  | zero =>
      have full : ¬count < attempts := fun below => by
        have small := UInt32.lt_iff_toNat_lt.mp below
        omega
      rw [retryCounting, retryFrom]
      refine ExceptT.ext (funext fun s => ?_)
      rw [run_attempt_bind]
      simp only [dif_neg full]
      obtain ⟨_ | _, _⟩ := errand.run s <;> rfl
  | succ left ih =>
      have below : count < attempts := UInt32.lt_iff_toNat_lt.mpr (by omega)
      have counted := toNat_count_of_lt below
      rw [retryCounting, retryFrom]
      simp only [dif_pos below]
      rw [ih (count + 1) (by omega), counted]
      rfl

end Host

/-- The calls are as many as it takes to succeed, but no more than there may be attempts, and one at
least.  All but the last one have failed; after each of these its number is warned of and there is a
pause, and nothing is done after the last call.  What that comes to is the result, a success exactly
if one was reached.  A counter in a word of 32 bits does not overflow. -/
theorem Retrial.makes_attempts (r : Retrial σ α) :
    ∃ (calls : ℕ) (failures : List Failure),
      (calls : ℕ∞) = min r.firstSuccess (max 1 r.attempts : ℕ) ∧
      failures.length + 1 = calls ∧
      (∀ n failure, failures[n]? = some failure → r.result n = .error failure) ∧
      r.Leads r.start (Move.course 1 failures (r.result (calls - 1))) (r.after (calls - 1)) ∧
      (r.host.retry r.attempts r.delay r.errand).run r.start =
        (r.result (calls - 1), r.after (calls - 1)) ∧
      ((r.result (calls - 1)).isOk = true ↔ r.firstSuccess ≤ (max 1 r.attempts : ℕ)) ∧
      ∀ word : UInt32, word.toNat = r.attempts →
        r.host.retryCounting word r.delay r.errand 1 =
          r.host.retry r.attempts r.delay r.errand := by
  obtain ⟨failures, ends, leads, ran⟩ := r.exists_ends (r.attempts - 1) 0
  have bound : max 1 r.attempts = r.attempts - 1 + 1 := by omega
  have calls := ends.length_eq
  have failed := ends.failed
  simp only [Nat.zero_add] at leads ran failed
  rw [bound]
  refine ⟨failures.length + 1, failures, calls, rfl, failed, leads, ran, ends.isOk_iff, ?_⟩
  · rintro word same
    rw [Host.retry, ← same]
    refine Host.retryCounting_eq r.host word r.delay r.errand (word.toNat - 1) 1 ?_
    have one : (1 : UInt32).toNat = 1 := rfl
    omega

end ClusterHarness
