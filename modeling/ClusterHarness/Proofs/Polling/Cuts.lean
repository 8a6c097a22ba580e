import ClusterHarness.Proofs.Polling.Independence

/-!
# Polls that are dropped

A poll that is dropped takes the same steps as one that is not, up to the last one that is due when
it is dropped, and none after it.  So the instant of the drop cuts its run in two and changes
nothing in the first part.
-/

namespace ClusterHarness

namespace Polling

variable {ε : Type}

namespace Machine

/-- Only a poll that has ended has nothing to do. -/
theorem due_eq_none {m : Machine ε} :
    m.due = none ↔ ∃ outcome instant, m.stage = .ended outcome instant := by
  unfold due
  cases m.stage <;> simp

theorem advance_of_due {job : Job ε} {m : Machine ε} {now : Nat} (due : m.due = some now) :
    m.advance job = m.resume job now := by
  rw [advance, due]

/-- An evaluation that a step makes begins with the step. -/
theorem getElem?_calls_of_resume {job : Job ε} {now : Nat} {m : Machine ε} {index instant : Nat}
    (made : (m.resume job now).calls[index]? = some instant) :
    m.calls[index]? = some instant ∨ instant = now := by
  obtain ⟨begun, stage⟩ := m
  cases stage with
  | asleep wake =>
      have longer : (resume job now ⟨begun, .asleep wake⟩).calls = begun.reverse ++ [now] := by
        simp [resume, calls]
      rw [longer, List.getElem?_append] at made
      split at made
      · exact Or.inl made
      · exact Or.inr (List.mem_singleton.mp (List.mem_of_getElem? made))
  | evaluating ends =>
      unfold resume at made
      dsimp only at made
      split at made <;> exact Or.inl made
  | ended => exact Or.inl made

/-- A step that ends a poll ends it at its own instant. -/
theorem stage_of_resume {job : Job ε} {now instant : Nat} {m : Machine ε} {outcome : Outcome ε}
    (here : m.due = some now) (ended : (m.resume job now).stage = .ended outcome instant) :
    instant = now := by
  obtain ⟨begun, stage⟩ := m
  cases stage with
  | asleep wake => cases ended
  | evaluating ends =>
      unfold resume at ended
      dsimp only at ended
      split at ended
      · cases ended
        rfl
      · cases ended
  | ended => cases here

/-- As time passes, a poll comes to its end or to a step that is due later. -/
theorem exists_run_beyond (job : Job ε) (far : 0 < job.clock.remote) (limit : Nat)
    (m : Machine ε) : ∃ steps, ∀ due, (run job steps m).due = some due → limit < due := by
  induction left : m.stepsBy limit using Nat.strongRecOn generalizing m with
  | ind _ ih =>
      cases here : m.due with
      | none => exact ⟨0, fun due next => nomatch here.symm.trans next⟩
      | some now =>
          by_cases within : now ≤ limit
          · have less := stepsBy_resume job far here within
            rw [← advance_of_due here, left] at less
            obtain ⟨steps, beyond⟩ := ih _ less (m.advance job) rfl
            exact ⟨steps + 1, beyond⟩
          · refine ⟨0, fun due next => ?_⟩
            cases here.symm.trans next
            exact Nat.lt_of_not_le within

end Machine

namespace Task

theorem shows_outcome {task : Task ε} {outcome : Outcome ε} {instant : Nat} :
    task.Shows (.leaves (some outcome) instant) ↔ task.machine.stage = .ended outcome instant := by
  obtain ⟨job, ⟨begun, stage⟩, dropAt, droppedAt⟩ := task
  cases stage <;> cases droppedAt <;> simp [Shows, result?]

theorem shows_dropped {task : Task ε} {instant : Nat} :
    task.Shows (.leaves none instant) ↔
      task.machine.due ≠ none ∧ task.droppedAt = some instant := by
  obtain ⟨job, ⟨begun, stage⟩, dropAt, droppedAt⟩ := task
  cases stage <;> cases droppedAt <;> simp [Shows, result?, Machine.due]

end Task

namespace Job

/-! ## The steps of a poll in time -/

theorem after_succ_of_due {job : Job ε} {steps now : Nat} (due : (job.after steps).due = some now) :
    job.after (steps + 1) = (job.after steps).resume job now := by
  rw [after_succ, Machine.advance_of_due due]

theorem after_succ_of_idle {job : Job ε} {steps : Nat} (idle : (job.after steps).due = none) :
    job.after (steps + 1) = job.after steps := by
  rw [after_succ, Machine.advance, idle]

/-- Once a poll has nothing to do it stays as it is. -/
theorem after_of_idle {job : Job ε} {m n : Nat} (idle : (job.after m).due = none) (le : m ≤ n) :
    job.after n = job.after m := by
  induction le with
  | refl => rfl
  | step _ ih => rw [after_succ_of_idle (ih ▸ idle), ih]

/-- The steps of a poll follow one another in time. -/
theorem due_mono {job : Job ε} {m n early late : Nat} (le : m ≤ n)
    (first : (job.after m).due = some early) (second : (job.after n).due = some late) :
    early ≤ late := by
  induction le generalizing late with
  | refl => exact Nat.le_of_eq (Option.some.inj (first.symm.trans second))
  | @step n _ ih =>
      cases between : (job.after n).due with
      | none =>
          rw [after_succ_of_idle between, between] at second
          cases second
      | some now =>
          rw [after_succ_of_due between] at second
          exact Nat.le_trans (ih between) (Machine.le_due_resume job second between)

/-- An evaluation that has been made began with an earlier step. -/
theorem exists_due_of_calls {job : Job ε} {steps index instant : Nat}
    (made : (job.after steps).calls[index]? = some instant) :
    ∃ n < steps, (job.after n).due = some instant := by
  induction steps with
  | zero => cases made
  | succ steps ih =>
      have earlier (before : (job.after steps).calls[index]? = some instant) :
          ∃ n < steps + 1, (job.after n).due = some instant := by
        obtain ⟨n, lower, due⟩ := ih before
        exact ⟨n, Nat.lt_succ_of_lt lower, due⟩
      cases due : (job.after steps).due with
      | none => exact earlier (after_succ_of_idle due ▸ made)
      | some now =>
          rw [after_succ_of_due due] at made
          rcases Machine.getElem?_calls_of_resume made with before | rfl
          · exact earlier before
          · exact ⟨steps, Nat.lt_succ_self steps, due⟩

/-- A poll that has ended did so with an earlier step, and no step of it is due later. -/
theorem exists_due_of_ended {job : Job ε} {steps instant : Nat} {outcome : Outcome ε}
    (ended : (job.after steps).stage = .ended outcome instant) :
    (∃ n < steps, (job.after n).due = some instant) ∧
      ∀ n due, (job.after n).due = some due → due ≤ instant := by
  induction steps with
  | zero => cases ended
  | succ steps ih =>
      cases due : (job.after steps).due with
      | none =>
          obtain ⟨⟨n, lower, last⟩, bound⟩ := ih (after_succ_of_idle due ▸ ended)
          exact ⟨⟨n, Nat.lt_succ_of_lt lower, last⟩, bound⟩
      | some now =>
          have same : instant = now :=
            Machine.stage_of_resume due (after_succ_of_due due ▸ ended)
          subst same
          refine ⟨⟨steps, Nat.lt_succ_self steps, due⟩, fun n other next => ?_⟩
          by_cases le : n ≤ steps
          · exact due_mono le next due
          · have idle := Machine.due_eq_none.mpr ⟨outcome, instant, ended⟩
            rw [after_of_idle idle (Nat.lt_of_not_le le), idle] at next
            cases next

/-! ## The run up to the drop -/

/-- The poll as a task that is dropped at an instant if it has not ended by then. -/
def cutAt (job : Job ε) (c : Nat) : Task ε := ⟨job, job.initial, some c, none⟩

/-- A task that may be dropped after some time is one that is cut at an instant. -/
theorem start_eq_cutAt (job : Job ε) (d : Nat) :
    Task.start job (some d) = job.cutAt (job.clock.wakes job.start d) :=
  rfl

/-- Something is seen of the poll, alone on its clock, when it is dropped at an instant. -/
def ShowsCut (job : Job ε) (c : Nat) (sight : Sight ε) : Prop :=
  ∃ events task, Schedule.run events [job.cutAt c] = [task] ∧ task.Shows sight

theorem showsCut_iff {job : Job ε} {c : Nat} {sight : Sight ε} :
    job.ShowsCut c sight ↔ ∃ events, (Task.advance^[events] (job.cutAt c)).Shows sight := by
  simp [ShowsCut, Task.run_singleton]

/-- All of the first so many steps that the poll takes are due by an instant. -/
def DueBy (job : Job ε) (c steps : Nat) : Prop :=
  ∀ n < steps, ∀ due, (job.after n).due = some due → due ≤ c

/-- The task is what the poll is after so many steps, all of them due by the drop. -/
def Uncut (job : Job ε) (c steps : Nat) (task : Task ε) : Prop :=
  job.DueBy c steps ∧ task = ⟨job, job.after steps, some c, none⟩

/-- The task was dropped before a step that is due after the drop. -/
def Cut (job : Job ε) (c steps : Nat) (task : Task ε) : Prop :=
  (∃ due, (job.after steps).due = some due ∧ c < due) ∧ job.DueBy c steps ∧
    task = ⟨job, job.after steps, some c, some c⟩

theorem DueBy.succ {job : Job ε} {c steps : Nat} (dueBy : job.DueBy c steps)
    (next : ∀ due, (job.after steps).due = some due → due ≤ c) : job.DueBy c (steps + 1) :=
  Nat.forall_lt_succ_right.mpr ⟨dueBy, next⟩

/-- Steps that come before one that is due by an instant are due by it as well. -/
theorem dueBy_of_due {job : Job ε} {c steps instant : Nat}
    (due : (job.after steps).due = some instant) (by_ : instant ≤ c) : job.DueBy c (steps + 1) :=
  fun _ lower _ earlier =>
    Nat.le_trans (due_mono (Nat.le_of_lt_succ lower) earlier due) by_

/-- The next event of a task that has not been dropped is the poll's step, if it is due by the drop,
and else the drop. -/
theorem Uncut.advance {job : Job ε} {c steps : Nat} {task : Task ε}
    (uncut : job.Uncut c steps task) :
    job.Uncut c (steps + 1) task.advance ∨ job.Cut c steps task.advance := by
  obtain ⟨dueBy, rfl⟩ := uncut
  cases due : (job.after steps).due with
  | none =>
      have idle : Task.nextEvent ⟨job, job.after steps, some c, none⟩ = none := by
        simp [Task.nextEvent, due]
      rw [Task.advance_of_idle idle]
      refine Or.inl ⟨dueBy.succ fun _ next => ?_, by rw [after_succ_of_idle due]⟩
      cases due.symm.trans next
  | some now =>
      have event : Task.nextEvent ⟨job, job.after steps, some c, none⟩ = some (min now c) := by
        simp [Task.nextEvent, due]
      rw [Task.advance_of_due event]
      unfold Task.fire
      dsimp only
      rw [due]
      by_cases within : now ≤ c
      · rw [Nat.min_eq_left within, if_pos rfl, ← after_succ_of_due due]
        refine Or.inl ⟨dueBy.succ fun other next => ?_, rfl⟩
        cases due.symm.trans next
        exact within
      · have later : c < now := Nat.lt_of_not_le within
        have other : some now ≠ some c := fun same => Nat.ne_of_gt later (Option.some.inj same)
        rw [Nat.min_eq_right (Nat.le_of_lt later), if_neg other]
        exact Or.inr ⟨⟨now, due, later⟩, dueBy, rfl⟩

theorem Cut.advance {job : Job ε} {c steps : Nat} {task : Task ε} (cut : job.Cut c steps task) :
    job.Cut c steps task.advance := by
  obtain ⟨later, dueBy, rfl⟩ := cut
  have idle : Task.nextEvent ⟨job, job.after steps, some c, some c⟩ = none := rfl
  rw [Task.advance_of_idle idle]
  exact ⟨later, dueBy, rfl⟩

/-- After any number of events the poll has taken as many steps, or it was dropped before. -/
theorem uncut_or_cut (job : Job ε) (c events : Nat) :
    job.Uncut c events (Task.advance^[events] (job.cutAt c)) ∨
      ∃ steps < events, job.Cut c steps (Task.advance^[events] (job.cutAt c)) := by
  induction events with
  | zero => exact Or.inl ⟨nofun, rfl⟩
  | succ events ih =>
      rw [Function.iterate_succ_apply']
      rcases ih with uncut | ⟨steps, lower, cut⟩
      · rcases uncut.advance with further | dropped
        · exact Or.inl further
        · exact Or.inr ⟨events, Nat.lt_succ_self events, dropped⟩
      · exact Or.inr ⟨steps, Nat.lt_succ_of_lt lower, cut.advance⟩

/-- All steps that are due by the drop are taken. -/
theorem iterate_of_dueBy {job : Job ε} {c steps : Nat} (dueBy : job.DueBy c steps) :
    Task.advance^[steps] (job.cutAt c) = ⟨job, job.after steps, some c, none⟩ := by
  rcases job.uncut_or_cut c steps with ⟨_, same⟩ | ⟨n, lower, ⟨due, next, later⟩, _⟩
  · exact same
  · exact absurd (dueBy n lower due next) (Nat.not_le_of_lt later)

/-! ## What is seen of a poll that is dropped -/

/-- The evaluations of a poll that is dropped are those that begin by the drop. -/
theorem showsCut_call_iff {job : Job ε} {c index instant : Nat} :
    job.ShowsCut c (.call index instant) ↔ job.Calls index instant ∧ instant ≤ c := by
  rw [showsCut_iff]
  constructor
  · have known {steps : Nat} (dueBy : job.DueBy c steps)
        (made : (job.after steps).calls[index]? = some instant) :
        job.Calls index instant ∧ instant ≤ c := by
      obtain ⟨n, lower, due⟩ := exists_due_of_calls made
      exact ⟨⟨steps, made⟩, dueBy n lower instant due⟩
    rintro ⟨events, seen⟩
    rcases job.uncut_or_cut c events with ⟨dueBy, same⟩ | ⟨steps, _, _, dueBy, same⟩
    · rw [same] at seen
      exact known dueBy seen
    · rw [same] at seen
      exact known dueBy seen
  · rintro ⟨called, by_⟩
    obtain ⟨rfl, undecided⟩ := calls_iff.mp called
    have due : (job.after (2 * index)).due = some (job.begins index) := by
      rw [after_two_mul job undecided]
      rfl
    refine ⟨2 * index + 1, ?_⟩
    rw [iterate_of_dueBy (dueBy_of_due due by_), after_two_mul_succ job undecided]
    exact getElem?_begun_reverse.mpr ⟨Nat.lt_succ_self index, rfl⟩

/-- A poll that is dropped has an outcome if it ends by the drop, and then its own. -/
theorem showsCut_outcome_iff {job : Job ε} {c instant : Nat} {outcome : Outcome ε} :
    job.ShowsCut c (.leaves (some outcome) instant) ↔ job.Ends outcome instant ∧ instant ≤ c := by
  rw [showsCut_iff]
  constructor
  · rintro ⟨events, seen⟩
    have ended := Task.shows_outcome.mp seen
    rcases job.uncut_or_cut c events with ⟨dueBy, same⟩ | ⟨steps, _, ⟨due, next, _⟩, _, same⟩
    · rw [same] at ended
      obtain ⟨⟨n, lower, last⟩, _⟩ := exists_due_of_ended ended
      exact ⟨⟨events, ended⟩, dueBy n lower instant last⟩
    · rw [same] at ended
      cases (Machine.due_eq_none.mpr ⟨_, _, ended⟩).symm.trans next
  · rintro ⟨⟨steps, ended⟩, by_⟩
    have dueBy : job.DueBy c steps := fun n _ due next =>
      Nat.le_trans ((exists_due_of_ended ended).2 n due next) by_
    refine ⟨steps, ?_⟩
    rw [iterate_of_dueBy dueBy]
    exact Task.shows_outcome.mpr ended

/-- The poll, if it is not dropped, has ended by an instant. -/
def EndsBy (job : Job ε) (c : Nat) : Prop :=
  ∃ outcome instant, job.Ends outcome instant ∧ instant ≤ c

theorem EndsBy.due_le {job : Job ε} {c steps due : Nat} (ended : job.EndsBy c)
    (next : (job.after steps).due = some due) : due ≤ c := by
  obtain ⟨outcome, instant, ⟨n, stage⟩, by_⟩ := ended
  exact Nat.le_trans ((exists_due_of_ended stage).2 steps due next) by_

/-- A poll is dropped, at the instant of the drop, if it has not ended by then. -/
theorem showsCut_dropped_iff {job : Job ε} (far : 0 < job.clock.remote) {c instant : Nat} :
    job.ShowsCut c (.leaves none instant) ↔ instant = c ∧ ¬ job.EndsBy c := by
  rw [showsCut_iff]
  constructor
  · rintro ⟨events, seen⟩
    obtain ⟨goesOn, dropped⟩ := Task.shows_dropped.mp seen
    rcases job.uncut_or_cut c events with ⟨_, same⟩ | ⟨steps, _, ⟨due, next, later⟩, _, same⟩
    · rw [same] at dropped
      cases dropped
    · rw [same] at dropped
      refine ⟨(Option.some.inj dropped).symm, ?_⟩
      exact fun ended => Nat.not_lt_of_le (ended.due_le next) later
  · rintro ⟨rfl, unended⟩
    obtain ⟨steps, beyond⟩ := Machine.exists_run_beyond job far instant job.initial
    refine ⟨steps + 1, ?_⟩
    rcases job.uncut_or_cut instant (steps + 1) with
      ⟨dueBy, _⟩ | ⟨n, _, ⟨due, next, _⟩, _, same⟩
    · -- a step that is both due by the drop and due later is none, so the poll has ended
      have idle : (job.after steps).due = none := by
        refine Option.eq_none_iff_forall_ne_some.mpr fun due next => ?_
        exact Nat.not_lt_of_le (dueBy steps (Nat.lt_succ_self steps) due next) (beyond due next)
      obtain ⟨outcome, last, ended⟩ := Machine.due_eq_none.mp idle
      obtain ⟨⟨n, lower, due⟩, _⟩ := exists_due_of_ended ended
      have by_ := dueBy n (Nat.lt_succ_of_lt lower) last due
      exact absurd ⟨outcome, last, ⟨steps, ended⟩, by_⟩ unended
    · rw [same]
      exact Task.shows_dropped.mpr ⟨fun idle => (nomatch next.symm.trans idle), rfl⟩

/-! ## Main statement -/

theorem showsAlone_call_iff {job : Job ε} {index instant : Nat} :
    job.ShowsAlone none (.call index instant) ↔ job.Calls index instant := by
  simp [ShowsAlone, run_alone, Task.Shows, Calls]

theorem showsAlone_leaves_iff {job : Job ε} {left : Option (Outcome ε)} {instant : Nat} :
    job.ShowsAlone none (.leaves left instant) ↔
      ∃ outcome, left = some outcome ∧ job.Ends outcome instant := by
  cases left with
  | some outcome => simp [ShowsAlone, run_alone, Task.shows_outcome, Ends]
  | none => simp [ShowsAlone, run_alone, Task.shows_dropped]

/-- A poll that ends by the instant of its drop shows what it shows when it is not dropped.  Any
other is dropped without an outcome, and its evaluations are those that begin by the drop when it is
not dropped. -/
theorem drop_cuts_run (job : Job ε) (far : 0 < job.clock.remote) (c : Nat) :
    (job.EndsBy c → ∀ sight, job.ShowsCut c sight ↔ job.ShowsAlone none sight) ∧
    (¬ job.EndsBy c →
      (∀ left instant, job.ShowsCut c (.leaves left instant) ↔ left = none ∧ instant = c) ∧
      ∀ index instant, job.ShowsCut c (.call index instant) ↔
        job.ShowsAlone none (.call index instant) ∧ instant ≤ c) := by
  refine ⟨fun ended sight => ?_, fun unended => ⟨fun left instant => ?_, fun index instant => ?_⟩⟩
  · cases sight with
    | call index instant =>
        rw [showsCut_call_iff, showsAlone_call_iff]
        refine and_iff_left_of_imp fun ⟨steps, made⟩ => ?_
        obtain ⟨n, _, due⟩ := exists_due_of_calls made
        exact ended.due_le due
    | leaves left instant =>
        rw [showsAlone_leaves_iff]
        cases left with
        | none =>
            rw [showsCut_dropped_iff far]
            exact iff_of_false (fun dropped => dropped.2 ended) nofun
        | some outcome =>
            rw [showsCut_outcome_iff]
            constructor
            · exact fun ⟨own, _⟩ => ⟨outcome, rfl, own⟩
            · rintro ⟨_, same, steps, stage⟩
              cases same
              obtain ⟨⟨n, _, due⟩, _⟩ := exists_due_of_ended stage
              exact ⟨⟨steps, stage⟩, ended.due_le due⟩
  · cases left with
    | none =>
        rw [showsCut_dropped_iff far]
        exact ⟨fun dropped => ⟨rfl, dropped.1⟩, fun dropped => ⟨dropped.2, unended⟩⟩
    | some outcome =>
        rw [showsCut_outcome_iff]
        exact iff_of_false (fun ⟨own, by_⟩ => unended ⟨outcome, instant, own, by_⟩) nofun
  · rw [showsCut_call_iff, showsAlone_call_iff]

/-- A poll that never finds anything and takes a second each time to find out. -/
def slow (timeout : Nat) : Job String :=
  eachSecond timeout fun _ => ⟨some (Duration.ofSecs 1), .pending⟩

/-- A poll that is dropped at the instant at which it ends has its outcome; one that would go on is
dropped during its second evaluation. -/
theorem slow_cut :
    0 < Clock.millisecond.remote ∧
      (slow (Duration.ofSecs 2)).EndsBy (Duration.ofSecs 3) ∧
      (slow (Duration.ofSecs 2)).ShowsCut (Duration.ofSecs 3)
        (.leaves (some (.timedOut (Duration.ofSecs 3))) (Duration.ofSecs 3)) ∧
      ¬ (slow 0).EndsBy (Duration.ofMillis 2500) ∧
      (slow 0).ShowsCut (Duration.ofMillis 2500) (.leaves none (Duration.ofMillis 2500)) ∧
      (slow 0).ShowsCut (Duration.ofMillis 2500) (.call 1 (Duration.ofSecs 2)) := by
  have far : 0 < Clock.millisecond.remote := by decide
  have timedOut : (slow (Duration.ofSecs 2)).Ends (.timedOut (Duration.ofSecs 3))
      (Duration.ofSecs 3) := ⟨4, rfl⟩
  have ended : (slow (Duration.ofSecs 2)).EndsBy (Duration.ofSecs 3) :=
    ⟨_, _, timedOut, Nat.le_refl _⟩
  have unended : ¬ (slow 0).EndsBy (Duration.ofMillis 2500) := by
    rintro ⟨_, _, ends, _⟩
    obtain ⟨k, ⟨decisive, _⟩, _⟩ := ends_iff.mp ends
    obtain ⟨_, limited, _⟩ := decisive.passed rfl
    cases limited
  have second : (slow 0).ShowsAlone none (.call 1 (Duration.ofSecs 2)) :=
    showsAlone_call_iff.mpr ⟨3, rfl⟩
  obtain ⟨dropped, calls⟩ := ((slow 0).drop_cuts_run far (Duration.ofMillis 2500)).2 unended
  refine ⟨far, ended, ?_, unended, (dropped _ _).mpr ⟨rfl, rfl⟩, (calls _ _).mpr ⟨second, ?_⟩⟩
  · refine (((slow (Duration.ofSecs 2)).drop_cuts_run far _).1 ended _).mpr ?_
    exact showsAlone_leaves_iff.mpr ⟨_, rfl, timedOut⟩
  · decide

end Job

end Polling

end ClusterHarness
