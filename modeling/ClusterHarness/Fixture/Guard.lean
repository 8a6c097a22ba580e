import ClusterHarness.Fixture.Basic

/-!
# Guards of fixtures

A fixture has a command that puts it on the cluster and one that takes it away.  Its guard sees to
it that what was put up is taken down when the guard goes, unless somebody took it down before or
asked for it to stay.
-/

namespace ClusterHarness

structure Fixture where
  description : String
  up : Command
  down : Command
  /-- The file that both commands are given. -/
  file : String
  deriving DecidableEq, Repr

inductive GuardCall where
  | up
  | down
  /-- Like `down`, but nothing else goes on meanwhile. -/
  | downBlocking
  /-- The fixture is to stay. -/
  | leak
  deriving DecidableEq, Repr

namespace GuardCall

/-- Whether the fixture is to be taken down after the call when its guard goes. -/
def owes : GuardCall → Bool
  | .up => true
  | .down | .downBlocking | .leak => false

def command? (fixture : Fixture) : GuardCall → Option Command
  | .up => some fixture.up
  | .down | .downBlocking => some fixture.down
  | .leak => none

end GuardCall

structure Guard where
  fixture : Fixture
  /-- Whether the fixture is to be taken down when the guard goes. -/
  owes : Bool
  deriving DecidableEq, Repr

namespace Guard

variable {σ : Type}

def ofFixture (fixture : Fixture) : Guard := ⟨fixture, false⟩

/-- The guard after a call, whatever becomes of the call's command. -/
def after (guard : Guard) (call : GuardCall) : Guard := { guard with owes := call.owes }

@[simp] theorem fixture_after (guard : Guard) (call : GuardCall) :
    (guard.after call).fixture = guard.fixture := rfl

@[simp] theorem owes_after (guard : Guard) (call : GuardCall) :
    (guard.after call).owes = call.owes := rfl

def perform (guard : Guard) (bench : Bench σ) (call : GuardCall) : Trial σ Unit :=
  match call.command? guard.fixture with
  | some command => bench.perform command
  | none => return ()

/-- Handles a call: its result, and the guard after it. -/
def handle (guard : Guard) (bench : Bench σ) (call : GuardCall) :
    StateM σ (Except FixtureError Unit × Guard) := do
  return (← (guard.perform bench call).run, guard.after call)

/-- Handles calls in turn, whatever becomes of each. -/
def handleAll (guard : Guard) (bench : Bench σ) :
    List GuardCall → StateM σ (List (Except FixtureError Unit) × Guard)
  | [] => return ([], guard)
  | call :: rest => do
    let (result, guard) ← guard.handle bench call
    let (results, guard) ← guard.handleAll bench rest
    return (result :: results, guard)

/-- The end of a guard: it does what it owes, and its file goes. -/
def close (guard : Guard) (bench : Bench σ) : StateM σ Unit := do
  if guard.owes then discard (guard.perform bench .down).run
  modify (bench.removeFile guard.fixture.file)

/-- Puts a fixture up.  If that fails its guard ends, so it is taken down at once. -/
def raise (fixture : Fixture) (bench : Bench σ) : Trial σ Guard := ExceptT.mk do
  let guard := (ofFixture fixture).after .up
  match ← (guard.perform bench .up).run with
  | .ok () => return .ok guard
  | .error e =>
    guard.close bench
    return .error e

end Guard

end ClusterHarness
