import ClusterHarness.Proofs.Polling.Timeline
import Mathlib.Algebra.GroupWithZero.Nat
import Mathlib.Logic.Function.Iterate

/-!
# Polls that share a clock

Several polls on one clock take turns.  Of those that have an event at the instant that the clock
shows, any may go first; when there is none left, the clock moves on to the next event of any.  Such
a run is made of the runs of the single polls: nothing happens to one of them but its own events,
and as time passes, each of these comes about at its own instant.
-/

namespace ClusterHarness

namespace Polling

variable {ε : Type}

namespace Task

/-! ## A task alone -/

/-- The task after its next event, if it has one. -/
def advance (task : Task ε) : Task ε :=
  match task.nextEvent with
  | some now => task.fire now
  | none => task

theorem advance_of_idle {task : Task ε} (idle : task.nextEvent = none) : task.advance = task := by
  rw [advance, idle]

theorem advance_of_due {task : Task ε} {now : Nat} (due : task.nextEvent = some now) :
    task.advance = task.fire now := by
  rw [advance, due]

/-- The next event of a task that has not been dropped: its poll is resumed, or else dropped. -/
theorem nextEvent_eq_some {task : Task ε} {now : Nat} :
    task.nextEvent = some now ↔
      task.droppedAt = none ∧ ∃ due, task.machine.due = some due ∧
        min due (task.dropAt.getD due) = now := by
  unfold nextEvent
  cases task.droppedAt <;> cases task.machine.due <;> simp

/-- A task that is alone on its clock has its own events one after the other. -/
theorem run_singleton (task : Task ε) (events : Nat) :
    Schedule.run events [task] = [advance^[events] task] := by
  induction events generalizing task with
  | zero => rfl
  | succ events ih =>
      cases due : task.nextEvent with
      | none =>
          rw [Function.iterate_fixed (advance_of_idle due)]
          simp [Schedule.run, Schedule.earliest, due]
      | some now =>
          rw [Function.iterate_succ_apply, ← ih, advance_of_due due]
          simp [Schedule.run, Schedule.earliest, Schedule.fireFirst, due]

end Task

/-! ## Time passes -/

namespace Job

/-- A poll that goes on sleeps for some time. -/
theorem lt_wake (job : Job ε) (far : 0 < job.clock.remote) {now : Nat}
    (before : ∀ d, job.deadline = some d → now < d) (index : Nat) : now < job.wake now index := by
  have long : 0 < job.spec.delay (job.draws index) :=
    Nat.lt_of_lt_of_le job.spec.interval_pos (job.spec.interval_le_delay _)
  have later : now < nextStart job.clock job.deadline now (job.spec.delay (job.draws index)) := by
    cases limited : job.deadline with
    | none =>
        show now < (job.clock.add? now _).getD (now + job.clock.remote)
        unfold Clock.add?
        split
        · exact Nat.lt_add_of_pos_right long
        · exact Nat.lt_add_of_pos_right far
    | some d =>
        have ahead := before d limited
        show now < ((job.clock.add? now _).map (min · d)).getD d
        unfold Clock.add?
        split
        · exact Nat.lt_min.mpr ⟨Nat.lt_add_of_pos_right long, ahead⟩
        · exact ahead
  calc
    now < _ := later
    _ ≤ job.clock.tick _ := job.clock.le_tick _
    _ ≤ job.clock.fires now _ := Nat.le_max_right _ _
    _ ≤ job.wake now index := Nat.le_add_right _ _

end Job

namespace Machine

/-- A step leads to a stage that is not over before the step. -/
theorem le_due_resume (job : Job ε) {now due : Nat} {m : Machine ε}
    (next : (m.resume job now).due = some due) (here : m.due = some now) : now ≤ due := by
  obtain ⟨begun, stage⟩ := m
  cases stage with
  | asleep wake =>
      cases next
      exact job.le_evaluated _ _
  | evaluating ends =>
      unfold resume at next
      dsimp only at next
      split at next
      · cases next
      · cases next
        exact job.le_wake _ _
  | ended => cases here

/-- How many steps a machine has left up to a limit, at the most. -/
def stepsBy (limit : Nat) (m : Machine ε) : Nat :=
  match m.stage with
  | .asleep wake => 2 * (limit + 1 - wake) + 2
  | .evaluating ends => 2 * (limit + 1 - ends) + 1
  | .ended .. => 0

theorem stepsBy_resume (job : Job ε) (far : 0 < job.clock.remote) {limit now : Nat} {m : Machine ε}
    (here : m.due = some now) (within : now ≤ limit) :
    (m.resume job now).stepsBy limit < m.stepsBy limit := by
  obtain ⟨begun, stage⟩ := m
  cases stage with
  | asleep wake =>
      cases here
      have later := job.le_evaluated now begun.length
      show 2 * (limit + 1 - job.evaluated now begun.length) + 1 < 2 * (limit + 1 - now) + 2
      omega
  | evaluating ends =>
      cases here
      unfold resume
      dsimp only
      cases said : verdict job.start job.deadline now (job.script (begun.length - 1)).finds with
      | some outcome => exact Nat.succ_pos _
      | none =>
          have later := job.lt_wake far (verdict_eq_none.mp said).2 begun.length
          show 2 * (limit + 1 - job.wake now begun.length) + 2 < 2 * (limit + 1 - now) + 1
          omega
  | ended => cases here

end Machine

namespace Task

theorem fire_job (task : Task ε) (now : Nat) : (task.fire now).job = task.job := by
  unfold fire
  split <;> rfl

/-- The events of a task follow one another in time. -/
theorem le_nextEvent_advance {task : Task ε} {now later : Nat} (due : task.nextEvent = some now)
    (next : task.advance.nextEvent = some later) : now ≤ later := by
  obtain ⟨kept, instant, machine, rfl⟩ := nextEvent_eq_some.mp due
  rw [advance_of_due due] at next
  obtain ⟨kept', instant', machine', rfl⟩ := nextEvent_eq_some.mp next
  unfold fire at kept' machine' ⊢
  split at machine'
  · next resumed =>
      rw [if_pos resumed]
      have ahead := Machine.le_due_resume task.job machine' resumed
      have same : instant = min instant (task.dropAt.getD instant) :=
        Option.some.inj (machine.symm.trans resumed)
      cases drop : task.dropAt with
      | none =>
          rw [drop] at ahead
          simpa [drop] using ahead
      | some d =>
          rw [drop] at ahead same
          simp only [Option.getD_some] at ahead same ⊢
          omega
  · next dropped =>
      rw [if_neg dropped] at kept'
      cases kept'

def eventsBy (limit : Nat) (task : Task ε) : Nat :=
  match task.droppedAt with
  | none => task.machine.stepsBy limit
  | some _ => 0

theorem eventsBy_advance {task : Task ε} (far : 0 < task.job.clock.remote) {limit now : Nat}
    (due : task.nextEvent = some now) (within : now ≤ limit) :
    task.advance.eventsBy limit < task.eventsBy limit := by
  obtain ⟨kept, instant, machine, same⟩ := nextEvent_eq_some.mp due
  rw [advance_of_due due]
  unfold fire
  split
  · next resumed =>
      unfold eventsBy
      rw [kept]
      exact Machine.stepsBy_resume task.job far resumed within
  · unfold eventsBy
    rw [kept]
    unfold Machine.due at machine
    unfold Machine.stepsBy
    cases stage : task.machine.stage with
    | ended =>
        rw [stage] at machine
        cases machine
    | _ => exact Nat.succ_pos _

end Task

/-! ## What is seen of a task -/

/-- Something seen of a poll: the instant at which an evaluation began, or how the poll left the
clock, with an outcome or dropped without one, and when. -/
inductive Sight (ε : Type) where
  | call (index instant : Nat)
  | leaves (outcome : Option (Outcome ε)) (instant : Nat)

namespace Task

def Shows (task : Task ε) : Sight ε → Prop
  | .call index instant => task.machine.calls[index]? = some instant
  | .leaves outcome instant => task.result? = some (outcome, instant)

end Task

def Job.ShowsAlone (job : Job ε) (drop : Option Nat) (sight : Sight ε) : Prop :=
  ∃ events task, Schedule.run events [Task.start job drop] = [task] ∧ task.Shows sight

theorem Job.showsAlone_iff {job : Job ε} {drop : Option Nat} {sight : Sight ε} :
    job.ShowsAlone drop sight ↔
      ∃ events, (Task.advance^[events] (Task.start job drop)).Shows sight := by
  simp [ShowsAlone, Task.run_singleton]

/-! ## The earliest event -/

namespace Schedule

theorem earliest_eq_none {tasks : List (Task ε)} :
    earliest tasks = none ↔ ∀ task ∈ tasks, task.nextEvent = none := by
  rw [earliest, List.min?_eq_none_iff, List.filterMap_eq_nil_iff]

theorem earliest_eq_some {tasks : List (Task ε)} {now : Nat} :
    earliest tasks = some now ↔
      (∃ task ∈ tasks, task.nextEvent = some now) ∧
        ∀ task ∈ tasks, ∀ instant, task.nextEvent = some instant → now ≤ instant := by
  rw [earliest, List.min?_eq_some_iff]
  simp only [List.mem_filterMap]
  refine and_congr_right fun _ => ⟨fun least task member instant due => ?_, ?_⟩
  · exact least instant ⟨task, member, due⟩
  · rintro least instant ⟨task, member, due⟩
    exact least task member instant due

/-- The task that is fired is one that has an event at the instant. -/
theorem fireFirst_eq_set {tasks : List (Task ε)} {now : Nat} {task : Task ε} (member : task ∈ tasks)
    (due : task.nextEvent = some now) :
    ∃ i first, tasks[i]? = some first ∧ first.nextEvent = some now ∧
      fireFirst now tasks = tasks.set i (first.fire now) := by
  induction tasks with
  | nil => cases member
  | cons other rest ih =>
      by_cases ready : other.nextEvent = some now
      · exact ⟨0, other, rfl, ready, by rw [fireFirst, if_pos ready]; rfl⟩
      · rcases List.mem_cons.mp member with rfl | inRest
        · exact absurd due ready
        · obtain ⟨i, first, here, due, fired⟩ := ih inRest
          exact ⟨i + 1, first, here, due, by rw [fireFirst, if_neg ready, fired]; rfl⟩

end Schedule

/-! ## Tasks that share a clock -/

/-- Tasks and the instant that the clock they share shows. -/
structure Board (ε : Type) where
  now : Nat
  tasks : List (Task ε)

namespace Board

/-- Polls that start together; each may be dropped after some time. -/
def start (instant : Nat) (family : List (Job ε × Option Nat)) : Board ε :=
  ⟨instant, family.map fun member => Task.start member.1 member.2⟩

/-- A move: any one of the tasks with an event at this instant has it.  If there is none, the clock
moves on to the earliest event, and if no event is left, nothing happens. -/
inductive Move (board : Board ε) : Board ε → Prop where
  | fires {i : Nat} {task : Task ε} (here : board.tasks[i]? = some task)
      (due : task.nextEvent = some board.now) :
      Move board ⟨board.now, board.tasks.set i (task.fire board.now)⟩
  | waits {next : Nat} (idle : ∀ task ∈ board.tasks, task.nextEvent ≠ some board.now)
      (earliest : Schedule.earliest board.tasks = some next) : Move board ⟨next, board.tasks⟩
  | rests (quiet : Schedule.earliest board.tasks = none) : Move board board

structure Run (board : Board ε) (run : Nat → Board ε) : Prop where
  start : run 0 = board
  move : ∀ n, Move (run n) (run (n + 1))

/-- Nothing has been missed, and timers that are set far away are set for later. -/
structure Sound (board : Board ε) : Prop where
  timely : ∀ task ∈ board.tasks, ∀ instant, task.nextEvent = some instant → board.now ≤ instant
  far : ∀ task ∈ board.tasks, 0 < task.job.clock.remote

theorem Move.sound {board board' : Board ε} (move : Move board board') (sound : board.Sound) :
    board'.Sound := by
  cases move with
  | @fires i task here due =>
      have member := List.mem_of_getElem? here
      constructor
      · intro other inBoard instant next
        rcases List.mem_or_eq_of_mem_set inBoard with old | rfl
        · exact sound.timely other old instant next
        · rw [← Task.advance_of_due due] at next
          exact Task.le_nextEvent_advance due next
      · intro other inBoard
        rcases List.mem_or_eq_of_mem_set inBoard with old | rfl
        · exact sound.far other old
        · rw [task.fire_job]
          exact sound.far task member
  | waits idle earliest => exact ⟨(Schedule.earliest_eq_some.mp earliest).2, sound.far⟩
  | rests => exact sound

theorem Run.sound {board : Board ε} {run : Nat → Board ε} (runs : board.Run run)
    (sound : board.Sound) (n : Nat) : (run n).Sound := by
  induction n with
  | zero => exact runs.start ▸ sound
  | succ n ih => exact (runs.move n).sound ih

/-! ## What a move means to one task -/

/-- A move leaves a task as it is or takes it to its next event. -/
theorem Move.task {board board' : Board ε} (move : Move board board') {i : Nat} {task : Task ε}
    (here : board.tasks[i]? = some task) :
    board'.tasks[i]? = some task ∨ board'.tasks[i]? = some task.advance := by
  cases move with
  | @fires j other there due =>
      by_cases same : j = i
      · subst same
        obtain rfl : task = other := Option.some.inj (here.symm.trans there)
        refine Or.inr ?_
        rw [Task.advance_of_due due]
        exact List.getElem?_set_self (List.getElem?_eq_some_iff.mp here).1
      · exact Or.inl ((List.getElem?_set_ne same).trans here)
  | waits => exact Or.inl here
  | rests => exact Or.inl here

/-- Whatever the order, all that happens to a task is what happens to it alone. -/
theorem Run.task {board : Board ε} {run : Nat → Board ε} (runs : board.Run run) {i : Nat}
    {task : Task ε} (here : board.tasks[i]? = some task) (n : Nat) :
    ∃ events, (run n).tasks[i]? = some (Task.advance^[events] task) := by
  induction n with
  | zero => exact ⟨0, runs.start ▸ here⟩
  | succ n ih =>
      obtain ⟨events, there⟩ := ih
      rcases (runs.move n).task there with same | further
      · exact ⟨events, same⟩
      · refine ⟨events + 1, ?_⟩
        rw [Function.iterate_succ_apply']
        exact further

/-! ## Every event comes about -/

/-- How much there is to do up to a limit, at the most: events, and time to wait for. -/
def left (limit : Nat) (board : Board ε) : Nat :=
  (board.tasks.map (Task.eventsBy limit)).sum + (limit - board.now)

theorem sum_map_set_lt {α : Type} {f : α → Nat} {l : List α} {i : Nat} {old new : α}
    (here : l[i]? = some old) (less : f new < f old) :
    ((l.set i new).map f).sum < (l.map f).sum := by
  induction l generalizing i with
  | nil => cases here
  | cons head rest ih =>
      cases i with
      | zero =>
          cases here
          simpa using less
      | succ i => simpa using ih here

/-- As long as a task waits for its next event, there is less and less to do before. -/
theorem Move.progress {board board' : Board ε} (move : Move board board') (sound : board.Sound)
    {i limit : Nat} {task : Task ε} (here : board.tasks[i]? = some task)
    (due : task.nextEvent = some limit) :
    board'.tasks[i]? = some task.advance ∨
      board'.tasks[i]? = some task ∧ board'.left limit < board.left limit := by
  have member := List.mem_of_getElem? here
  rcases move.task here with same | further
  · refine Or.inr ⟨same, ?_⟩
    cases move with
    | @fires j other there ready =>
        have within : board.now ≤ limit := sound.timely task member limit due
        have inBoard := List.mem_of_getElem? there
        have fewer := Task.eventsBy_advance (sound.far other inBoard) ready within
        rw [Task.advance_of_due ready] at fewer
        exact Nat.add_lt_add_right (sum_map_set_lt there fewer) _
    | @waits next idle earliest =>
        obtain ⟨⟨first, inBoard, ready⟩, least⟩ := Schedule.earliest_eq_some.mp earliest
        have within : next ≤ limit := least task member limit due
        have later : board.now ≤ next := sound.timely first inBoard next ready
        have moved : board.now ≠ next := fun stays => idle first inBoard (stays ▸ ready)
        have sooner : limit - next < limit - board.now := by omega
        exact Nat.add_lt_add_left sooner _
    | rests quiet => cases due.symm.trans (Schedule.earliest_eq_none.mp quiet task member)
  · exact Or.inl further

/-- Sooner or later a task has its next event. -/
theorem Run.advances {board : Board ε} {run : Nat → Board ε} (runs : board.Run run)
    (sound : board.Sound) {n i : Nat} {task : Task ε} (here : (run n).tasks[i]? = some task) :
    ∃ m, (run m).tasks[i]? = some task.advance := by
  cases due : task.nextEvent with
  | none =>
      rw [Task.advance_of_idle due]
      exact ⟨n, here⟩
  | some limit =>
      induction bound : (run n).left limit using Nat.strongRecOn generalizing n with
      | ind _ ih =>
          rcases (runs.move n).progress (runs.sound sound n) here due with further | ⟨same, less⟩
          · exact ⟨n + 1, further⟩
          · exact ih _ (bound ▸ less) same rfl

/-- All that happens to a task alone happens to it in company. -/
theorem Run.iterates {board : Board ε} {run : Nat → Board ε} (runs : board.Run run)
    (sound : board.Sound) {i : Nat} {task : Task ε} (here : board.tasks[i]? = some task)
    (events : Nat) : ∃ n, (run n).tasks[i]? = some (Task.advance^[events] task) := by
  induction events with
  | zero => exact ⟨0, runs.start ▸ here⟩
  | succ events ih =>
      obtain ⟨n, there⟩ := ih
      rw [Function.iterate_succ_apply']
      exact runs.advances sound there

/-! ## The order of the list -/

def next (board : Board ε) : Board ε :=
  match Schedule.earliest board.tasks with
  | none => board
  | some instant =>
    if instant = board.now then ⟨board.now, Schedule.fireFirst board.now board.tasks⟩
    else ⟨instant, board.tasks⟩

theorem move_next {board : Board ε} (sound : board.Sound) : Move board board.next := by
  unfold next
  cases earliest : Schedule.earliest board.tasks with
  | none => exact .rests earliest
  | some instant =>
      obtain ⟨⟨task, member, due⟩, least⟩ := Schedule.earliest_eq_some.mp earliest
      dsimp only
      split
      · next same =>
          subst same
          obtain ⟨i, first, here, ready, fired⟩ := Schedule.fireFirst_eq_set member due
          rw [fired]
          exact .fires here ready
      · next later =>
          refine .waits (fun other inBoard ready => later ?_) earliest
          exact Nat.le_antisymm (least other inBoard _ ready) (sound.timely task member _ due)

theorem run_next {board : Board ε} (sound : board.Sound) :
    board.Run fun n => next^[n] board := by
  have each (n : Nat) : (next^[n] board).Sound := by
    induction n with
    | zero => exact sound
    | succ n ih =>
        rw [Function.iterate_succ_apply']
        exact (move_next ih).sound ih
  refine ⟨rfl, fun n => ?_⟩
  rw [Function.iterate_succ_apply']
  exact move_next (each n)

/-- The schedule makes these moves, but for those of the clock. -/
theorem exists_next_of_schedule (board : Board ε) (events : Nat) :
    ∃ n, (next^[n] board).tasks = Schedule.run events board.tasks := by
  induction events generalizing board with
  | zero => exact ⟨0, rfl⟩
  | succ events ih =>
      cases earliest : Schedule.earliest board.tasks with
      | none => exact ⟨0, by rw [Schedule.run, earliest]; rfl⟩
      | some instant =>
          obtain ⟨n, reached⟩ := ih ⟨instant, Schedule.fireFirst instant board.tasks⟩
          have ran : Schedule.run (events + 1) board.tasks =
              Schedule.run events (Schedule.fireFirst instant board.tasks) := by
            rw [Schedule.run, earliest]
          have fires : next ⟨instant, board.tasks⟩ =
              ⟨instant, Schedule.fireFirst instant board.tasks⟩ := by
            unfold next
            dsimp only
            rw [earliest]
            exact if_pos rfl
          by_cases here : instant = board.now
          · subst here
            exact ⟨n + 1, by rw [Function.iterate_succ_apply, fires, reached, ran]⟩
          · have waits : board.next = ⟨instant, board.tasks⟩ := by
              unfold next
              rw [earliest]
              exact if_neg here
            exact ⟨n + 2, by rw [Function.iterate_succ_apply, Function.iterate_succ_apply, waits,
              fires, reached, ran]⟩

theorem exists_schedule_of_next (board : Board ε) (n : Nat) :
    ∃ events, Schedule.run events board.tasks = (next^[n] board).tasks := by
  induction n generalizing board with
  | zero => exact ⟨0, rfl⟩
  | succ n ih =>
      rw [Function.iterate_succ_apply]
      obtain ⟨events, reached⟩ := ih board.next
      rw [← reached]
      unfold next
      cases earliest : Schedule.earliest board.tasks with
      | none => exact ⟨events, rfl⟩
      | some instant =>
          dsimp only
          split
          · next same =>
              subst same
              exact ⟨events + 1, by rw [Schedule.run, earliest]⟩
          · exact ⟨events, rfl⟩

/-! ## Main statement -/

theorem sound_start {clock : Clock} (far : 0 < clock.remote) {instant : Nat}
    {family : List (Job ε × Option Nat)}
    (together : ∀ member ∈ family, member.1.clock = clock ∧ member.1.start = instant) :
    (start instant family).Sound := by
  constructor
  · intro task inBoard event due
    obtain ⟨⟨job, drop⟩, member, rfl⟩ := List.mem_map.mp inBoard
    obtain ⟨_, begun⟩ := together _ member
    obtain ⟨_, first, asleep, rfl⟩ := Task.nextEvent_eq_some.mp due
    have notBefore : job.start ≤ first := by
      cases asleep
      exact job.start_le_begins 0
    show instant ≤ min first ((drop.map (job.clock.wakes job.start)).getD first)
    cases drop with
    | none => simpa [← begun] using notBefore
    | some d => exact begun ▸ Nat.le_min.mpr ⟨notBefore, job.clock.le_wakes _ _⟩
  · intro task inBoard
    obtain ⟨member, inFamily, rfl⟩ := List.mem_map.mp inBoard
    exact (together member inFamily).1 ▸ far

/-- In every run a poll shows what it shows alone. -/
theorem Run.shows_iff {board : Board ε} {run : Nat → Board ε} (runs : board.Run run)
    (sound : board.Sound) {i : Nat} {job : Job ε} {drop : Option Nat}
    (here : board.tasks[i]? = some (Task.start job drop)) (sight : Sight ε) :
    (∃ n task, (run n).tasks[i]? = some task ∧ task.Shows sight) ↔ job.ShowsAlone drop sight := by
  rw [Job.showsAlone_iff]
  constructor
  · rintro ⟨n, task, there, seen⟩
    obtain ⟨events, same⟩ := runs.task here n
    obtain rfl := Option.some.inj (there.symm.trans same)
    exact ⟨events, seen⟩
  · rintro ⟨events, seen⟩
    obtain ⟨n, there⟩ := runs.iterates sound here events
    exact ⟨n, _, there, seen⟩

/-- Polls that start together on one clock do not influence each other: in whatever order they have
their events at an instant, each makes its evaluations, ends, and is dropped exactly as it is when
it has the clock for itself, and so it is in the order of the list. -/
theorem each_as_alone {clock : Clock} (far : 0 < clock.remote) {instant : Nat}
    {family : List (Job ε × Option Nat)}
    (together : ∀ member ∈ family, member.1.clock = clock ∧ member.1.start = instant) {i : Nat}
    {job : Job ε} {drop : Option Nat} (member : family[i]? = some (job, drop))
    (sight : Sight ε) :
    (∀ run, (start instant family).Run run →
      ((∃ n task, (run n).tasks[i]? = some task ∧ task.Shows sight) ↔ job.ShowsAlone drop sight)) ∧
    ((∃ events task,
        (Schedule.run events (family.map fun member =>
          Task.start member.1 member.2))[i]? = some task ∧ task.Shows sight) ↔
      job.ShowsAlone drop sight) := by
  have sound := sound_start far together
  have here : (start instant family).tasks[i]? = some (Task.start job drop) := by
    simp [start, member]
  refine ⟨fun run runs => runs.shows_iff sound here sight, ?_⟩
  rw [← (run_next sound).shows_iff sound here sight]
  constructor
  · rintro ⟨events, task, there, seen⟩
    obtain ⟨n, same⟩ := exists_next_of_schedule (start instant family) events
    exact ⟨n, task, by rw [same]; exact there, seen⟩
  · rintro ⟨n, task, there, seen⟩
    obtain ⟨events, same⟩ := exists_schedule_of_next (start instant family) n
    exact ⟨events, task, by rw [← same] at there; exact there, seen⟩

/-- A poll that times out after two seconds, and one that has an evaluation at that same instant and
is dropped when another one begins. -/
def pair : List (Job String × Option Nat) := [
  (Job.eachSecond (Duration.ofMillis 2000) fun _ => ⟨none, .pending⟩, none),
  (Job.eachSecond 0 fun _ => ⟨some (Duration.ofMillis 1000), .pending⟩,
    some (Duration.ofMillis 4000))]

theorem pair_as_alone :
    0 < Clock.millisecond.remote ∧
      (∀ member ∈ pair, member.1.clock = Clock.millisecond ∧ member.1.start = 0) ∧
      (start 0 pair).Run (fun n => next^[n] (start 0 pair)) ∧
      (∃ n task, (next^[n] (start 0 pair)).tasks[0]? = some task ∧
        task.Shows (.leaves (some (.timedOut (Duration.ofMillis 2000))) (Duration.ofMillis 2000))) ∧
      ∃ n task, (next^[n] (start 0 pair)).tasks[1]? = some task ∧
        task.Shows (.leaves none (Duration.ofMillis 4000)) := by
  have far : 0 < Clock.millisecond.remote := by decide
  have together : ∀ member ∈ pair, member.1.clock = Clock.millisecond ∧ member.1.start = 0 := by
    simp [pair, Job.eachSecond]
  have runs := run_next (sound_start far together)
  refine ⟨far, together, runs, ?_, ?_⟩
  · refine ((each_as_alone far together (i := 0) rfl _).1 _ runs).mpr ?_
    refine Job.showsAlone_iff.mpr ⟨6, ?_⟩
    show Task.result? _ = _
    decide +kernel
  · refine ((each_as_alone far together (i := 1) rfl _).1 _ runs).mpr ?_
    refine Job.showsAlone_iff.mpr ⟨6, ?_⟩
    show Task.result? _ = _
    decide +kernel

end Board

end Polling

end ClusterHarness
