import ClusterHarness.Fixture.Kubectl
import ClusterHarness.Proofs.Fixture.Journal
import ClusterHarness.Rehearsal.Host

/-!
# The life of a guard

A guard puts its fixture up with one command.  If that fails the fixture is taken down at once, and
the error of the first command is the result.  Else it is taken down once, by a call or as the guard
goes, unless it was asked to stay.  The file that the commands are given goes after all of them.
-/

namespace ClusterHarness

variable {σ : Type}

/-! ## What commands are given -/

namespace Command

def optionsOf : List String → List (String × String)
  | flag :: value :: rest =>
    if flag = "-n" ∨ flag = "-f" then (flag, value) :: optionsOf rest else optionsOf (value :: rest)
  | _ => []

def options (command : Command) : List (String × String) := optionsOf command.arguments

end Command

namespace Bench

/-- What commands read in the files that a bench made.  They leave these files as they are. -/
structure Shelf (bench : Bench σ) where
  read : σ → String → Option (List UInt8)
  read_launch : ∀ command s path, read (bench.launch command s).2 path = read s path
  read_makeFile : ∀ content s path rest, bench.makeFile content s = (.ok path, rest) →
    read rest path = some content
  read_removeFile : ∀ path s, read (bench.removeFile path s) path = none

/-- A bench that remembers the moment of each launch. -/
def traced (bench : Bench σ) : Bench (σ × List (Moment σ)) := bench.noting Moment.mk

theorem read_fileOf {bench : Bench σ} (shelf : bench.Shelf) {text path : String} {s rest : σ}
    (made : (bench.fileOf text).run s = (.ok path, rest)) :
    shelf.read rest path = some (Utf8.encode text) := by
  have ran : (bench.fileOf text).run s =
      ((bench.makeFile (Utf8.encode text) s).1.mapError .noFile,
        (bench.makeFile (Utf8.encode text) s).2) := rfl
  rw [ran] at made
  cases result : bench.makeFile (Utf8.encode text) s with
  | mk outcome after =>
      rw [result] at made
      cases outcome with
      | error fault => cases made
      | ok made_ =>
          cases made
          exact shelf.read_makeFile _ _ _ _ result

end Bench

/-! ## Putting up and taking down -/

namespace GuardCall

def isTeardown : GuardCall → Bool
  | .down | .downBlocking => true
  | .up | .leak => false

/-- Nothing is put up again after it was taken down. -/
def StaysDown (calls : List GuardCall) : Prop :=
  calls.Pairwise fun earlier later => earlier.isTeardown = true → later ≠ .up

def owesAfter (owed : Bool) (calls : List GuardCall) : Bool :=
  (calls.getLast?.map GuardCall.owes).getD owed

theorem owesAfter_cons (owed : Bool) (call : GuardCall) (rest : List GuardCall) :
    owesAfter owed (call :: rest) = owesAfter call.owes rest := by
  unfold owesAfter
  rw [List.getLast?_cons]
  cases rest.getLast? <;> rfl

theorem owesAfter_of_leaks {owed : Bool} {calls : List GuardCall} (some : calls ≠ [])
    (leaks : ∀ call ∈ calls, call = .leak) : owesAfter owed calls = false := by
  have last := leaks _ (List.getLast_mem some)
  simp [owesAfter, List.getLast?_eq_some_getLast some, last, owes]

/-- Calls that take nothing down, put nothing up and do not ask to stay are none. -/
theorem eq_nil_of_idle {calls : List GuardCall} (noLeak : .leak ∉ calls) (noUp : .up ∉ calls)
    (none : calls.countP isTeardown = 0) : calls = [] := by
  cases calls with
  | nil => rfl
  | cons call rest =>
      have idle := List.countP_eq_zero.mp none call List.mem_cons_self
      cases call with
      | up => exact absurd List.mem_cons_self noUp
      | leak => exact absurd List.mem_cons_self noLeak
      | down => exact absurd rfl idle
      | downBlocking => exact absurd rfl idle

/-- The teardowns of the calls and the one that is owed in the end are one in all. -/
theorem teardowns_eq_one {calls : List GuardCall} (noLeak : .leak ∉ calls)
    (few : calls.countP isTeardown ≤ 1) (stays : StaysDown calls) :
    calls.countP isTeardown + (if owesAfter true calls then 1 else 0) = 1 := by
  induction calls with
  | nil => rfl
  | cons call rest ih =>
      have noLeakLater := List.not_mem_of_not_mem_cons noLeak
      obtain ⟨later, staysLater⟩ := List.pairwise_cons.mp stays
      have last (teardown : call.isTeardown = true) : rest = [] := by
        rw [List.countP_cons_of_pos teardown] at few
        refine eq_nil_of_idle noLeakLater (fun up => later .up up teardown rfl) ?_
        omega
      rw [owesAfter_cons]
      cases call with
      | up => exact ih noLeakLater few staysLater
      | leak => exact absurd List.mem_cons_self noLeak
      | down => rw [last rfl]; rfl
      | downBlocking => rw [last rfl]; rfl

theorem length_filterMap_command? {fixture : Fixture} {calls : List GuardCall}
    (noLeak : .leak ∉ calls) : (calls.filterMap (command? fixture)).length = calls.length := by
  rw [List.length_filterMap_eq_countP, List.countP_eq_length]
  intro call called
  cases call with
  | leak => exact absurd called noLeak
  | up => rfl
  | down => rfl
  | downBlocking => rfl

theorem mem_filterMap_command? {fixture : Fixture} {calls : List GuardCall} {command : Command}
    (member : command ∈ calls.filterMap (command? fixture)) :
    command = fixture.up ∨ command = fixture.down := by
  obtain ⟨call, _, given⟩ := List.mem_filterMap.mp member
  cases call with
  | leak => cases given
  | up => exact Or.inl (Option.some.inj given).symm
  | down => exact Or.inr (Option.some.inj given).symm
  | downBlocking => exact Or.inr (Option.some.inj given).symm

/-- The teardowns among calls are the launches of the command that takes the fixture down. -/
theorem countP_filterMap_command? {fixture : Fixture} (differ : fixture.up ≠ fixture.down)
    (calls : List GuardCall) :
    (calls.filterMap (command? fixture)).countP (· = fixture.down) = calls.countP isTeardown := by
  rw [List.countP_filterMap]
  refine List.countP_congr fun call _ => ?_
  cases call <;> simp [command?, isTeardown, differ]

end GuardCall

/-- How often a command was launched. -/
def issued (command : Command) (moments : List (Moment σ)) : Nat :=
  (moments.map Moment.command).countP (· = command)

namespace Guard

def retire (guard : Guard) (bench : Bench σ) (calls : List GuardCall) :
    StateM σ (List (Except FixtureError Unit)) := do
  let (results, guard) ← guard.handleAll bench calls
  guard.close bench
  return results

theorem run_retire (guard : Guard) (bench : Bench σ) (calls : List GuardCall) (s : σ) :
    (guard.retire bench calls).run s =
      (((guard.handleAll bench calls).run s).1.1,
        ((((guard.handleAll bench calls).run s).1.2.close bench).run
          ((guard.handleAll bench calls).run s).2).2) :=
  rfl

theorem owes_foldl_after_eq (guard : Guard) (calls : List GuardCall) :
    (calls.foldl after guard).owes = GuardCall.owesAfter guard.owes calls :=
  owes_foldl_after guard calls

/-- A guard that goes has launched a command for each call that has one, and perhaps one more. -/
theorem retire_traced (guard : Guard) (bench : Bench σ) (calls : List GuardCall) (s : σ)
    (moments : List (Moment σ)) :
    ∃ called : List (Moment σ), ∃ last : σ,
      (guard.retire bench.traced calls).run (s, moments) =
        (((guard.handleAll bench calls).run s).1.1,
          (((calls.foldl after guard).close bench).run last).2, moments ++ (called ++
            if GuardCall.owesAfter guard.owes calls then [⟨guard.fixture.down, last⟩] else [])) ∧
      called.map Moment.command = calls.filterMap (GuardCall.command? guard.fixture) ∧
      (.leak ∉ calls → ((guard.handleAll bench calls).run s).1.1 =
        called.map fun moment => (moment.launch bench).report) ∧
      ∀ Holds : σ → Prop, (∀ command s, Holds s → Holds (bench.launch command s).2) → Holds s →
        (∀ moment ∈ called, Holds moment.before) ∧ Holds last := by
  obtain ⟨called, ran, commands, results, kept⟩ :=
    guard.handleAll_noting bench Moment.mk calls s moments
  refine ⟨called, ((guard.handleAll bench calls).run s).2, ?_, commands, results, kept⟩
  have copied : (called.map fun moment => Moment.mk moment.command moment.before) = called :=
    List.map_id _
  have closed := (calls.foldl after guard).close_noting bench Moment.mk
    ((guard.handleAll bench calls).run s).2 (moments ++ called)
  rw [copied] at ran
  simp only [run_retire, Bench.traced, ran, guard_handleAll, closed, owes_foldl_after_eq,
    fixture_foldl_after, List.append_assoc]

theorem run_raise (fixture : Fixture) (bench : Bench σ) (s : σ) :
    (raise fixture bench).run s =
      match (bench.launched fixture.up s).report with
      | .ok () => (.ok ⟨fixture, true⟩, (bench.launch fixture.up s).2)
      | .error e =>
        (.error e, ((close ⟨fixture, true⟩ bench).run (bench.launch fixture.up s).2).2) := by
  have performed : (perform ⟨fixture, true⟩ bench .up).run s = _ := bench.run_perform fixture.up s
  unfold raise
  have same : (ofFixture fixture).after .up = ⟨fixture, true⟩ := rfl
  rw [ExceptT.run_mk, stateM_bind_apply, same, performed]
  cases (bench.launched fixture.up s).report <;> rfl

/-- A guard whose fixture could not be put up has gone, and has launched a teardown before. -/
theorem raise_traced (fixture : Fixture) (bench : Bench σ) (s : σ) :
    (raise fixture bench.traced).run (s, []) =
      match (bench.launched fixture.up s).report with
      | .ok () => (.ok ⟨fixture, true⟩, ((bench.launch fixture.up s).2, [⟨fixture.up, s⟩]))
      | .error e =>
        (.error e, (((close ⟨fixture, true⟩ bench).run (bench.launch fixture.up s).2).2,
          [⟨fixture.up, s⟩, ⟨fixture.down, (bench.launch fixture.up s).2⟩])) := by
  have same : (bench.traced.launched fixture.up (s, [])).report =
      (bench.launched fixture.up s).report := rfl
  have launched : (bench.traced.launch fixture.up (s, [])).2 =
      ((bench.launch fixture.up s).2, [⟨fixture.up, s⟩]) := rfl
  have closed := close_noting ⟨fixture, true⟩ bench Moment.mk (bench.launch fixture.up s).2
    [⟨fixture.up, s⟩]
  rw [run_raise, same, launched]
  cases (bench.launched fixture.up s).report with
  | ok _ => rfl
  | error e =>
      simp only [Bench.traced, closed]
      rfl

end Guard

/-! ## The whole life -/

namespace Fixture

def raised (fixture : Fixture) (bench : Bench σ) (s : σ) :
    Except FixtureError Guard × σ × List (Moment σ) :=
  (Guard.raise fixture bench.traced).run (s, [])

/-- What comes of the calls of the guard that put the fixture up, and of its end. -/
def retired (fixture : Fixture) (bench : Bench σ) (guard : Guard) (calls : List GuardCall) (s : σ) :
    List (Except FixtureError Unit) × σ × List (Moment σ) :=
  (guard.retire bench.traced calls).run (fixture.raised bench s).2

/-- The two commands of a fixture differ, and are given the same namespace and the same file. -/
structure Consistent (fixture : Fixture) (into : Option String) : Prop where
  differ : fixture.up ≠ fixture.down
  up_options : fixture.up.options = (into.map ("-n", ·)).toList ++ [("-f", fixture.file)]
  down_options : fixture.down.options = (into.map ("-n", ·)).toList ++ [("-f", fixture.file)]

/-- A command put the fixture up or took it down, was given the namespace and the file, and found
the content of that file. -/
structure Faithful (fixture : Fixture) {bench : Bench σ} (shelf : bench.Shelf)
    (into : Option String) (content : List UInt8) (moment : Moment σ) : Prop where
  command : moment.command = fixture.up ∨ moment.command = fixture.down
  options : moment.command.options = (into.map ("-n", ·)).toList ++ [("-f", fixture.file)]
  held : shelf.read moment.before fixture.file = some content

theorem Consistent.faithful {fixture : Fixture} {into : Option String}
    (consistent : fixture.Consistent into) {bench : Bench σ} (shelf : bench.Shelf)
    {content : List UInt8} {moment : Moment σ}
    (command : moment.command = fixture.up ∨ moment.command = fixture.down)
    (held : shelf.read moment.before fixture.file = some content) :
    fixture.Faithful shelf into content moment := by
  refine ⟨command, ?_, held⟩
  rcases command with isUp | isDown
  · rw [isUp, consistent.up_options]
  · rw [isDown, consistent.down_options]

/-- The guard of a fixture sees to it that the fixture is taken down. -/
structure Guarded (fixture : Fixture) {bench : Bench σ} (shelf : bench.Shelf)
    (into : Option String) (content : List UInt8) (s : σ) : Prop where
  /-- One command puts the fixture up, and the call has the result of that command. -/
  up_once : ∃ moment,
    (fixture.raised bench s).2.2.filter (·.command = fixture.up) = [moment] ∧
      (moment.launch bench).report = (fixture.raised bench s).1.map fun _ => ()
  down_of_error : ∀ error, (fixture.raised bench s).1 = .error error →
    issued fixture.down (fixture.raised bench s).2.2 = 1
  /-- Once the guard is gone, each call to take the fixture down has launched a teardown, and the
  end of the guard has done so if the last call, or putting the fixture up, left that to it. -/
  downs : ∀ guard, (fixture.raised bench s).1 = .ok guard → ∀ calls,
    issued fixture.down (fixture.retired bench guard calls s).2.2 =
      calls.countP GuardCall.isTeardown + (if GuardCall.owesAfter true calls then 1 else 0)
  down_once : ∀ guard, (fixture.raised bench s).1 = .ok guard → ∀ calls, .leak ∉ calls →
    calls.countP GuardCall.isTeardown ≤ 1 → GuardCall.StaysDown calls →
    issued fixture.down (fixture.retired bench guard calls s).2.2 = 1
  not_down_of_leak : ∀ guard, (fixture.raised bench s).1 = .ok guard → ∀ calls, calls ≠ [] →
    (∀ call ∈ calls, call = .leak) →
    issued fixture.down (fixture.retired bench guard calls s).2.2 = 0
  /-- The calls have the results of their own commands; that of the last teardown is not heard of. -/
  results : ∀ guard, (fixture.raised bench s).1 = .ok guard → ∀ calls, .leak ∉ calls →
    (fixture.retired bench guard calls s).1 =
      (((fixture.retired bench guard calls s).2.2.drop 1).take calls.length).map
        fun moment => (moment.launch bench).report
  raised_faithful : ∀ moment ∈ (fixture.raised bench s).2.2,
    fixture.Faithful shelf into content moment
  retired_faithful : ∀ guard, (fixture.raised bench s).1 = .ok guard → ∀ calls,
    ∀ moment ∈ (fixture.retired bench guard calls s).2.2,
      fixture.Faithful shelf into content moment
  /-- The file does not outlive its guard. -/
  raised_gone : ∀ error, (fixture.raised bench s).1 = .error error →
    shelf.read (fixture.raised bench s).2.1 fixture.file = none
  retired_gone : ∀ guard, (fixture.raised bench s).1 = .ok guard → ∀ calls,
    shelf.read (fixture.retired bench guard calls s).2.1 fixture.file = none

theorem raised_cases (fixture : Fixture) (bench : Bench σ) (s : σ) :
    ((bench.launched fixture.up s).report = .ok () ∧ fixture.raised bench s =
        (.ok ⟨fixture, true⟩, (bench.launch fixture.up s).2, [⟨fixture.up, s⟩])) ∨
      ∃ error, (bench.launched fixture.up s).report = .error error ∧ fixture.raised bench s =
        (.error error, ((Guard.close ⟨fixture, true⟩ bench).run (bench.launch fixture.up s).2).2,
          [⟨fixture.up, s⟩, ⟨fixture.down, (bench.launch fixture.up s).2⟩]) := by
  have ran : fixture.raised bench s = _ := Guard.raise_traced fixture bench s
  cases report : (bench.launched fixture.up s).report with
  | ok _ => exact Or.inl ⟨rfl, by rw [ran, report]⟩
  | error error => exact Or.inr ⟨error, rfl, by rw [ran, report]⟩

/-- The launches of a guard whose fixture was put up: first that, then those of the calls, and at
last one that it owes. -/
theorem retired_of_ok {fixture : Fixture} {bench : Bench σ} {s : σ} {guard : Guard}
    (up : (fixture.raised bench s).1 = .ok guard) (calls : List GuardCall) :
    ∃ called : List (Moment σ), ∃ last : σ,
      (fixture.retired bench guard calls s).2.2 = ⟨fixture.up, s⟩ :: (called ++
        if GuardCall.owesAfter true calls then [⟨fixture.down, last⟩] else []) ∧
      (∃ before, (fixture.retired bench guard calls s).2.1 =
        bench.removeFile fixture.file before) ∧
      called.map Moment.command = calls.filterMap (GuardCall.command? fixture) ∧
      (.leak ∉ calls → (fixture.retired bench guard calls s).1 =
        called.map fun moment => (moment.launch bench).report) ∧
      ∀ Holds : σ → Prop, (∀ command s, Holds s → Holds (bench.launch command s).2) → Holds s →
        (∀ moment ∈ called, Holds moment.before) ∧ Holds last := by
  rcases fixture.raised_cases bench s with ⟨_, ran⟩ | ⟨error, _, ran⟩
  · have same : guard = ⟨fixture, true⟩ := by
      rw [ran] at up
      exact (Except.ok.inj up).symm
    subst same
    obtain ⟨called, last, retired, commands, results, kept⟩ :=
      Guard.retire_traced ⟨fixture, true⟩ bench calls (bench.launch fixture.up s).2
        [⟨fixture.up, s⟩]
    have begun : (fixture.raised bench s).2 = _ := congrArg Prod.snd ran
    have whole : fixture.retired bench ⟨fixture, true⟩ calls s = _ :=
      (congrArg (Guard.retire ⟨fixture, true⟩ bench.traced calls).run begun).trans retired
    have gone : ∃ before, (fixture.retired bench ⟨fixture, true⟩ calls s).2.1 =
        bench.removeFile fixture.file before :=
      ⟨_, by rw [whole, Guard.run_close, Guard.fixture_foldl_after]⟩
    refine ⟨called, last, by rw [whole]; rfl, gone, commands, by rw [whole]; exact results, ?_⟩
    intro Holds launched holds
    exact kept Holds launched (launched _ s holds)
  · rw [ran] at up
    cases up

variable {fixture : Fixture} {bench : Bench σ} {s : σ} {into : Option String}
  {content : List UInt8}

theorem issued_retired (consistent : fixture.Consistent into) {guard : Guard}
    (up : (fixture.raised bench s).1 = .ok guard) (calls : List GuardCall) :
    issued fixture.down (fixture.retired bench guard calls s).2.2 =
      calls.countP GuardCall.isTeardown + (if GuardCall.owesAfter true calls then 1 else 0) := by
  obtain ⟨called, last, moments, _, commands, _⟩ := retired_of_ok up calls
  have differ := consistent.differ
  have teardowns := GuardCall.countP_filterMap_command? differ calls
  rw [← commands] at teardowns
  cases owed : GuardCall.owesAfter true calls with
  | false => simpa [issued, moments, owed, differ] using teardowns
  | true => simpa [issued, moments, owed, differ] using teardowns

theorem results_retired {guard : Guard} (up : (fixture.raised bench s).1 = .ok guard)
    {calls : List GuardCall} (noLeak : .leak ∉ calls) :
    (fixture.retired bench guard calls s).1 =
      (((fixture.retired bench guard calls s).2.2.drop 1).take calls.length).map
        fun moment => (moment.launch bench).report := by
  obtain ⟨called, last, moments, _, commands, results, _⟩ := retired_of_ok up calls
  have length : called.length = calls.length := by
    have listed := congrArg List.length commands
    rwa [List.length_map, GuardCall.length_filterMap_command? noLeak] at listed
  rw [results noLeak, moments, ← length, List.drop_one, List.tail_cons, List.take_left]

theorem faithful_raised (consistent : fixture.Consistent into) (shelf : bench.Shelf)
    (held : shelf.read s fixture.file = some content) :
    ∀ moment ∈ (fixture.raised bench s).2.2, fixture.Faithful shelf into content moment := by
  have up : fixture.Faithful shelf into content ⟨fixture.up, s⟩ :=
    consistent.faithful shelf (Or.inl rfl) held
  rcases fixture.raised_cases bench s with ⟨_, ran⟩ | ⟨_, _, ran⟩
  · rw [ran]
    exact List.forall_mem_singleton.mpr up
  · have kept := (shelf.read_launch fixture.up s fixture.file).trans held
    rw [ran]
    exact List.forall_mem_cons.mpr ⟨up,
      List.forall_mem_singleton.mpr (consistent.faithful shelf (Or.inr rfl) kept)⟩

/-- No command changes the file, and it goes after the last one. -/
theorem faithful_retired (consistent : fixture.Consistent into) (shelf : bench.Shelf)
    (held : shelf.read s fixture.file = some content) {guard : Guard}
    (up : (fixture.raised bench s).1 = .ok guard) (calls : List GuardCall) :
    ∀ moment ∈ (fixture.retired bench guard calls s).2.2,
      fixture.Faithful shelf into content moment := by
  obtain ⟨called, last, moments, _, commands, _, keeps⟩ := retired_of_ok up calls
  obtain ⟨calledHeld, lastHeld⟩ := keeps (fun t => shelf.read t fixture.file = some content)
    (fun command t holds => (shelf.read_launch command t fixture.file).trans holds) held
  rw [moments]
  refine List.forall_mem_cons.mpr ⟨consistent.faithful shelf (Or.inl rfl) held, ?_⟩
  refine List.forall_mem_append.mpr ⟨?_, ?_⟩
  · intro moment member
    have listed : moment.command ∈ called.map Moment.command := List.mem_map_of_mem member
    rw [commands] at listed
    exact consistent.faithful shelf (GuardCall.mem_filterMap_command? listed)
      (calledHeld moment member)
  · cases GuardCall.owesAfter true calls with
    | false => exact fun _ member => nomatch member
    | true =>
        rw [if_pos rfl]
        exact List.forall_mem_singleton.mpr (consistent.faithful shelf (Or.inr rfl) lastHeld)

/-- A fixture is guarded whose file has its content when the fixture is put up. -/
theorem Consistent.guarded (consistent : fixture.Consistent into) (shelf : bench.Shelf)
    (held : shelf.read s fixture.file = some content) :
    fixture.Guarded shelf into content s where
  up_once := by
    refine ⟨⟨fixture.up, s⟩, ?_⟩
    rcases fixture.raised_cases bench s with ⟨report, ran⟩ | ⟨error, report, ran⟩
    · rw [ran]
      exact ⟨by simp, report⟩
    · rw [ran]
      exact ⟨by simp [Ne.symm consistent.differ], report⟩
  down_of_error := by
    intro error failed
    rcases fixture.raised_cases bench s with ⟨_, ran⟩ | ⟨_, _, ran⟩
    · rw [ran] at failed
      cases failed
    · rw [ran]
      simp [issued, consistent.differ]
  downs _ up calls := issued_retired consistent up calls
  down_once _ up calls noLeak few stays := by
    rw [issued_retired consistent up]
    exact GuardCall.teardowns_eq_one noLeak few stays
  not_down_of_leak _ up calls some leaks := by
    rw [issued_retired consistent up, GuardCall.owesAfter_of_leaks some leaks,
      List.countP_eq_zero.mpr]
    · rfl
    · intro call called
      rw [leaks call called]
      exact Bool.false_ne_true
  results _ up _ noLeak := results_retired up noLeak
  raised_faithful := faithful_raised consistent shelf held
  retired_faithful _ up calls := faithful_retired consistent shelf held up calls
  raised_gone := by
    intro error failed
    rcases fixture.raised_cases bench s with ⟨_, ran⟩ | ⟨_, _, ran⟩
    · rw [ran] at failed
      cases failed
    · rw [ran, Guard.run_close]
      exact shelf.read_removeFile _ _
  retired_gone _ up calls := by
    obtain ⟨_, _, _, ⟨before, gone⟩, _⟩ := retired_of_ok up calls
    rw [gone]
    exact shelf.read_removeFile _ _

end Fixture

/-! ## Fixtures by kubectl -/

namespace Kubectl

/-- What a fixture is made of. -/
inductive Config where
  | ofNamespace (ns : Namespace)
  | ofText (content : String) (into : Option String)
  | ofObject (value : Json) (into : Option String)

namespace Config

def into : Config → Option String
  | .ofNamespace _ => none
  | .ofText _ into => into
  | .ofObject _ into => into

def manifest : Config → String
  | .ofNamespace ns => Json.compact (Namespace.codec.write ns)
  | .ofText content _ => content
  | .ofObject value _ => Json.compact value

def make (kubectl : Kubectl) (bench : Bench σ) : Config → Trial σ Fixture
  | .ofNamespace ns => kubectl.ofNamespace bench ns
  | .ofText content into => kubectl.ofText bench content into
  | .ofObject value into => kubectl.ofObject bench value into

end Config

theorem namespaceFixture_consistent (kubectl : Kubectl) (name file : String) :
    (kubectl.namespaceFixture name file).Consistent none where
  differ := by simp [namespaceFixture, run, Command.ofProgram]
  up_options := by simp [namespaceFixture, run, Command.ofProgram, Command.options, Command.optionsOf]
  down_options := by
    simp [namespaceFixture, run, Command.ofProgram, Command.options, Command.optionsOf]

theorem manifestFixture_consistent (kubectl : Kubectl) (description : String)
    (into : Option String) (file : String) :
    (kubectl.manifestFixture description into file).Consistent into where
  differ := by simp [manifestFixture, run, Command.ofProgram]
  up_options := by
    cases into <;>
      simp [manifestFixture, run, Command.ofProgram, Command.options, Command.optionsOf]
  down_options := by
    cases into <;>
      simp [manifestFixture, run, Command.ofProgram, Command.options, Command.optionsOf]

/-- What is made is consistent, and its file has the text that describes it. -/
theorem Config.make_spec (kubectl : Kubectl) {bench : Bench σ} (shelf : bench.Shelf)
    (config : Config) {s rest : σ} {fixture : Fixture}
    (made : (config.make kubectl bench).run s = (.ok fixture, rest)) :
    fixture.Consistent config.into ∧
      shelf.read rest fixture.file = some (Utf8.encode config.manifest) := by
  cases config with
  | ofNamespace ns =>
      obtain ⟨file, _, written, same⟩ := exceptT_run_bind_eq_ok.mp made
      cases same
      exact ⟨kubectl.namespaceFixture_consistent _ _, bench.read_fileOf shelf written⟩
  | ofText content into =>
      obtain ⟨file, _, written, same⟩ := exceptT_run_bind_eq_ok.mp made
      cases same
      exact ⟨kubectl.manifestFixture_consistent _ _ _, bench.read_fileOf shelf written⟩
  | ofObject value into =>
      obtain ⟨file, _, written, same⟩ := exceptT_run_bind_eq_ok.mp made
      cases same
      exact ⟨kubectl.manifestFixture_consistent _ _ _, bench.read_fileOf shelf written⟩

/-- Every fixture that is put up is guarded, whatever becomes of the commands. -/
theorem make_guarded (kubectl : Kubectl) {bench : Bench σ} (shelf : bench.Shelf) (config : Config)
    {s rest : σ} {fixture : Fixture}
    (made : (config.make kubectl bench).run s = (.ok fixture, rest)) :
    fixture.Guarded shelf config.into (Utf8.encode config.manifest) rest := by
  obtain ⟨consistent, held⟩ := config.make_spec kubectl shelf made
  exact consistent.guarded shelf held

end Kubectl

namespace Rehearsal

def shelf (scene : Scene) : (bench scene).Shelf where
  read s path := (s.files.find? (·.1 == path)).map (·.2)
  read_launch command s path := by
    have same : (launch scene command s).2.files = s.files := by
      unfold launch
      dsimp only
      split <;> rfl
    change (((launch scene command s).2.files.find? _).map _) = _
    rw [same]
  read_makeFile content s path rest made := by
    cases made
    simp
  read_removeFile path s := by
    have gone : (s.files.filter (·.1 != path)).find? (·.1 == path) = none := by
      simp [List.find?_eq_none]
    change (((s.files.filter (·.1 != path)).find? (·.1 == path)).map _) = none
    rw [gone]
    rfl

def refusing : Scene where
  server := ""
  script := []
  secureServers := []
  secureScript := none
  programs := ["kubectl"]
  plays := [("kubectl", List.replicate 2 ⟨.exited 1, [], [], false⟩)]
  absent := []
  environment := []
  verbosity := .info
  coloured := false
  workingDirectory := "/"
  home := "/"
  repository := "."
  kubeconfig := none
  executable := ""
  today := ⟨⟨2023, 1, 1⟩, 0, 0, 0⟩

def refusedConfig : Kubectl.Config := .ofText "kind: ConfigMap" (some "e2e")

def refusedFixture : Fixture :=
  Kubectl.manifestFixture ⟨"kubectl"⟩ "manifest" refusedConfig.into (fileName 0)

/-- The file of the text has been written. -/
def refusedStart : HostState :=
  { HostState.start [] with
    files := [(fileName 0, Utf8.encode refusedConfig.manifest)]
    filesMade := 1 }

/-- What cannot be put up is taken down once, and it makes no difference that this fails as well. -/
theorem refusedFixture_guarded :
    (refusedConfig.make ⟨"kubectl"⟩ (bench refusing)).run (.start []) =
        (.ok refusedFixture, refusedStart) ∧
      refusedFixture.Guarded (shelf refusing) (some "e2e") (Utf8.encode "kind: ConfigMap")
        refusedStart ∧
      (refusedFixture.raised (bench refusing) refusedStart).1 =
        .error (.unsuccessful refusedFixture.up.text (.exited 1)) ∧
      issued refusedFixture.down (refusedFixture.raised (bench refusing) refusedStart).2.2 = 1 := by
  have made : (refusedConfig.make ⟨"kubectl"⟩ (bench refusing)).run (.start []) =
      (.ok refusedFixture, refusedStart) := rfl
  have guarded := Kubectl.make_guarded ⟨"kubectl"⟩ (shelf refusing) refusedConfig made
  have failed : (refusedFixture.raised (bench refusing) refusedStart).1 =
      .error (.unsuccessful refusedFixture.up.text (.exited 1)) := by
    rfl
  exact ⟨made, guarded, failed, guarded.down_of_error _ failed⟩

end Rehearsal

end ClusterHarness
