import ClusterHarness.Fixture.Guard

/-!
# Journals of benches

A bench can take notes of the commands that it launches; it works as before otherwise.  A
guard launches one command for each call but those to let its fixture stay, in the order of the
calls, and each result tells what came of the launch.
-/

namespace ClusterHarness

variable {σ : Type}

/-- A command that was launched, and what came of it. -/
structure Launch where
  command : Command
  result : Except String Completion

namespace Launch

def succeeded (launch : Launch) : Bool :=
  match launch.result with
  | .ok completion => completion.ending.success
  | .error _ => false

/-- What is heard of a launch whose command has to succeed. -/
def report (launch : Launch) : Except FixtureError Unit :=
  match launch.result with
  | .ok completion =>
    if completion.ending.success then .ok ()
    else .error (.unsuccessful launch.command.text completion.ending)
  | .error fault => .error (.notStarted launch.command.text fault)

theorem report_eq_ok_iff (launch : Launch) : launch.report = .ok () ↔ launch.succeeded = true := by
  unfold report succeeded
  cases launch.result with
  | error fault => simp
  | ok completion => cases completion.ending.success <;> simp

end Launch

structure Moment (σ : Type) where
  command : Command
  before : σ

namespace Bench

def noting {β : Type} (bench : Bench σ) (note : Command → σ → β) : Bench (σ × List β) where
  launch command s :=
    let (result, rest) := bench.launch command s.1
    (result, (rest, s.2 ++ [note command s.1]))
  makeFile content s :=
    let (result, rest) := bench.makeFile content s.1
    (result, (rest, s.2))
  removeFile path s := (bench.removeFile path s.1, s.2)

/-- A bench together with a journal of its launches, the earliest first. -/
def journaled (bench : Bench σ) : Bench (σ × List Launch) where
  launch command s :=
    let (result, rest) := bench.launch command s.1
    (result, (rest, s.2 ++ [⟨command, result⟩]))
  makeFile content s :=
    let (result, rest) := bench.makeFile content s.1
    (result, (rest, s.2))
  removeFile path s := (bench.removeFile path s.1, s.2)

def launched (bench : Bench σ) (command : Command) (s : σ) : Launch :=
  ⟨command, (bench.launch command s).1⟩

theorem run_perform (bench : Bench σ) (command : Command) (s : σ) :
    (bench.perform command).run s =
      ((bench.launched command s).report, (bench.launch command s).2) := by
  have performed : (bench.perform command).run s =
      ExceptT.map (Function.const Completion ()) (bench.complete command) s := rfl
  rw [performed, launched]
  simp only [complete, ExceptT.map, ExceptT.mk, bind, StateT.bind]
  cases bench.launch command s with
  | mk result rest =>
      cases result with
      | error fault => rfl
      | ok completion =>
          simp only [Launch.report]
          cases completion.ending.success <;> rfl

end Bench

def Moment.launch (bench : Bench σ) (moment : Moment σ) : Launch :=
  bench.launched moment.command moment.before

namespace Guard

theorem run_perform_of_some (guard : Guard) (bench : Bench σ) {call : GuardCall}
    {command : Command} (given : call.command? guard.fixture = some command) (s : σ) :
    (guard.perform bench call).run s =
      ((bench.launched command s).report, (bench.launch command s).2) := by
  rw [perform, given]
  exact bench.run_perform command s

theorem run_handleAll_cons (guard : Guard) (bench : Bench σ) (call : GuardCall)
    (rest : List GuardCall) (s : σ) :
    (guard.handleAll bench (call :: rest)).run s =
      let first := (guard.perform bench call).run s
      let others := ((guard.after call).handleAll bench rest).run first.2
      ((first.1 :: others.1.1, others.1.2), others.2) :=
  rfl

/-- What becomes of the commands makes no difference to the guard. -/
theorem guard_handleAll (guard : Guard) (bench : Bench σ) (calls : List GuardCall) (s : σ) :
    ((guard.handleAll bench calls).run s).1.2 = calls.foldl after guard := by
  induction calls generalizing guard s with
  | nil => rfl
  | cons call rest ih =>
      rw [run_handleAll_cons]
      exact ih _ _

@[simp] theorem fixture_foldl_after (guard : Guard) (calls : List GuardCall) :
    (calls.foldl after guard).fixture = guard.fixture := by
  induction calls generalizing guard with
  | nil => rfl
  | cons call rest ih => exact ih _

/-- The last call says what a guard owes. -/
theorem owes_foldl_after (guard : Guard) (calls : List GuardCall) :
    (calls.foldl after guard).owes = (calls.getLast?.map GuardCall.owes).getD guard.owes := by
  induction calls generalizing guard with
  | nil => rfl
  | cons call rest ih =>
      rw [List.foldl_cons, ih, List.getLast?_cons]
      cases rest.getLast? <;> rfl

/-- Taking notes leaves all else as it is, and a note is taken for each call that has a command. -/
theorem handleAll_noting {β : Type} (guard : Guard) (bench : Bench σ) (note : Command → σ → β)
    (calls : List GuardCall) (s : σ) (notes : List β) :
    ∃ moments : List (Moment σ),
      (guard.handleAll (bench.noting note) calls).run (s, notes) =
        (((guard.handleAll bench calls).run s).1, (((guard.handleAll bench calls).run s).2,
          notes ++ moments.map fun moment => note moment.command moment.before)) ∧
      moments.map Moment.command = calls.filterMap (GuardCall.command? guard.fixture) ∧
      (.leak ∉ calls → ((guard.handleAll bench calls).run s).1.1 =
        moments.map fun moment => (moment.launch bench).report) ∧
      ∀ Holds : σ → Prop, (∀ command s, Holds s → Holds (bench.launch command s).2) → Holds s →
        (∀ moment ∈ moments, Holds moment.before) ∧ Holds ((guard.handleAll bench calls).run s).2 := by
  induction calls generalizing guard s notes with
  | nil =>
      refine ⟨[], by rw [List.map_nil, List.append_nil]; rfl, rfl, fun _ => rfl, ?_⟩
      exact fun _ _ holds => ⟨fun _ member => (nomatch member), holds⟩
  | cons call rest ih =>
      cases given : call.command? guard.fixture with
      | none =>
          have leaked : call = .leak := by
            cases call <;> first | rfl | cases given
          subst leaked
          obtain ⟨moments, ran, commands, _, kept⟩ := ih (guard.after .leak) s notes
          refine ⟨moments, ?_, ?_, fun noLeak => absurd (List.mem_cons_self ..) noLeak, kept⟩
          · have stayed : (guard.perform bench .leak).run s = (.ok (), s) := rfl
            have noted : (guard.perform (bench.noting note) .leak).run (s, notes) =
                (.ok (), (s, notes)) := rfl
            simp only [run_handleAll_cons, stayed, noted, ran]
          · rw [List.filterMap_cons_none given]
            exact commands
      | some command =>
          have performed := guard.run_perform_of_some bench given s
          have noted : (guard.perform (bench.noting note) call).run (s, notes) =
              ((bench.launched command s).report,
                ((bench.launch command s).2, notes ++ [note command s])) :=
            guard.run_perform_of_some (bench.noting note) given (s, notes)
          obtain ⟨moments, ran, commands, results, kept⟩ :=
            ih (guard.after call) (bench.launch command s).2 (notes ++ [note command s])
          refine ⟨⟨command, s⟩ :: moments, ?_, ?_, ?_, ?_⟩
          · simp only [run_handleAll_cons, performed, noted, ran, List.append_assoc,
              List.singleton_append, List.map_cons]
          · rw [List.map_cons, List.filterMap_cons_some given, commands]
            rfl
          · intro noLeak
            rw [run_handleAll_cons, performed]
            exact congrArg _ (results (List.not_mem_of_not_mem_cons noLeak))
          · intro Holds launched holds
            obtain ⟨before, after⟩ := kept Holds launched (launched command s holds)
            rw [run_handleAll_cons, performed]
            exact ⟨List.forall_mem_cons.mpr ⟨holds, before⟩, after⟩

/-- A journal leaves all else as it is, and holds a launch for each call that has a command. -/
theorem handleAll_journaled (guard : Guard) (bench : Bench σ) (calls : List GuardCall) (s : σ)
    (journal : List Launch) :
    ∃ launches : List Launch,
      (guard.handleAll bench.journaled calls).run (s, journal) =
        (((guard.handleAll bench calls).run s).1,
          (((guard.handleAll bench calls).run s).2, journal ++ launches)) ∧
      launches.map Launch.command = calls.filterMap (GuardCall.command? guard.fixture) ∧
      (.leak ∉ calls → ((guard.handleAll bench calls).run s).1.1 = launches.map Launch.report) := by
  obtain ⟨moments, ran, commands, results, _⟩ :=
    guard.handleAll_noting bench bench.launched calls s journal
  refine ⟨moments.map (Moment.launch bench), ran, ?_, ?_⟩
  · rw [List.map_map]
    exact commands
  · intro noLeak
    rw [List.map_map]
    exact results noLeak

theorem run_close (guard : Guard) (bench : Bench σ) (s : σ) :
    (guard.close bench).run s = ((), bench.removeFile guard.fixture.file
      (if guard.owes then ((guard.perform bench .down).run s).2 else s)) := by
  unfold close
  cases guard.owes <;> rfl

/-- A guard that ends takes a note of a launch only if it owes that. -/
theorem close_noting {β : Type} (guard : Guard) (bench : Bench σ) (note : Command → σ → β) (s : σ)
    (notes : List β) :
    (guard.close (bench.noting note)).run (s, notes) =
      ((), (((guard.close bench).run s).2,
        notes ++ if guard.owes then [note guard.fixture.down s] else [])) := by
  have performed : (guard.perform bench .down).run s = _ :=
    bench.run_perform guard.fixture.down s
  have noted : (guard.perform (bench.noting note) .down).run (s, notes) = _ :=
    (bench.noting note).run_perform guard.fixture.down (s, notes)
  rw [run_close, run_close, performed, noted]
  cases guard.owes with
  | false =>
      simp only [Bool.false_eq_true, if_false, List.append_nil]
      rfl
  | true => rfl

/-- A guard that ends launches a command only if it owes that. -/
theorem close_journaled (guard : Guard) (bench : Bench σ) (s : σ) (journal : List Launch) :
    ((guard.close bench.journaled).run (s, journal)).2.2 =
      journal ++ if guard.owes then [bench.launched guard.fixture.down s] else [] := by
  have noted := guard.close_noting bench bench.launched s journal
  exact congrArg (fun closed => closed.2.2) noted

end Guard

end ClusterHarness
