import ClusterHarness.Host.Run

/-!
# The bench of fixtures

Fixtures are put on a cluster by child commands that are given a file each.  A bench starts such
commands and keeps such files; statements about all benches cover every outcome of every command.
-/

namespace ClusterHarness

inductive FixtureError where
  | notStarted (command fault : String)
  | unsuccessful (command : String) (ending : Ending)
  | notText (command : String)
  | noFile (fault : String)
  | invalidVariable (name reason : String)
  deriving DecidableEq, Repr

def FixtureError.message : FixtureError → String
  | .notStarted command fault => "failed to run " ++ command ++ ": " ++ fault
  | .unsuccessful command ending => command ++ " exited with " ++ ending.text
  | .notText command => "output of " ++ command ++ " is not valid UTF-8"
  | .noFile fault => "failed to write resource file: " ++ fault
  | .invalidVariable name reason => "invalid value for " ++ name ++ ": " ++ reason

structure Bench (σ : Type) where
  /-- Runs a command to its end, unless it cannot be started. -/
  launch : Command → σ → Except String Completion × σ
  /-- Makes a file of its own for some content and gives its path. -/
  makeFile : List UInt8 → σ → Except String String × σ
  removeFile : String → σ → σ

abbrev Trial (σ α : Type) := ExceptT FixtureError (StateM σ) α

namespace Bench

variable {σ : Type}

/-- Runs a command that has to succeed. -/
def complete (bench : Bench σ) (command : Command) : Trial σ Completion := ExceptT.mk fun s =>
  match bench.launch command s with
  | (.error fault, s) => (.error (.notStarted command.text fault), s)
  | (.ok completion, s) =>
    if completion.ending.success then (.ok completion, s)
    else (.error (.unsuccessful command.text completion.ending), s)

/-- Runs a command that has to succeed; its output is passed on. -/
def perform (bench : Bench σ) (command : Command) : Trial σ Unit := discard (bench.complete command)

/-- The output of a command that has to succeed. -/
def outputOf (bench : Bench σ) (command : Command) : Trial σ String := do
  let completion ← bench.complete { command with captured := true }
  match Utf8.decode completion.stdout with
  | .ok text => return text
  | .error _ => throw (.notText command.text)

def fileOf (bench : Bench σ) (text : String) : Trial σ String := ExceptT.mk fun s =>
  let (result, s) := bench.makeFile (Utf8.encode text) s
  (result.mapError .noFile, s)

end Bench

end ClusterHarness
