import ClusterHarness.Cluster.Session
import ClusterHarness.Console.Notice
import ClusterHarness.Host.Failure
import ClusterHarness.Http.Exchange
import ClusterHarness.Settings
import ClusterHarness.Yaml.Value

/-!
# The host of a command line

Everything a command can do to its surroundings is a field of the host; commands are errands, which
map the state of the surroundings to a result and the next state.  So a statement about all hosts
is one about every answer and every outcome of every child command.  How values are written as YAML
is the host's too: it has the library that does so.
-/

namespace ClusterHarness

/-- A child command.  Captured output is handed back; else it goes where the host's output goes.  Of
several values for a variable the last counts. -/
structure Command where
  program : String
  arguments : List String
  bindings : List (String × String)
  /-- Where it runs, if not in the working directory. -/
  directory : Option String
  captured : Bool
  deriving DecidableEq, Repr

inductive Ending where
  | exited (code : Nat)
  | killed (signal : Nat)
  deriving DecidableEq, Repr

structure Completion where
  ending : Ending
  stdout : List UInt8
  stderr : List UInt8
  deriving DecidableEq, Repr

namespace Ending

def success (ending : Ending) : Bool := ending = .exited 0

def code? : Ending → Option Nat
  | .exited code => some code
  | .killed _ => none

/-- The code reported for an ending; a signal counts as 1. -/
def code (ending : Ending) : Nat := ending.code?.getD 1

/-- The names of the signals, from 1 on. -/
def signalNames : List String := [
  "SIGHUP", "SIGINT", "SIGQUIT", "SIGILL", "SIGTRAP", "SIGABRT", "SIGBUS", "SIGFPE", "SIGKILL",
  "SIGUSR1", "SIGSEGV", "SIGUSR2", "SIGPIPE", "SIGALRM", "SIGTERM", "SIGSTKFLT", "SIGCHLD",
  "SIGCONT", "SIGSTOP", "SIGTSTP", "SIGTTIN", "SIGTTOU", "SIGURG", "SIGXCPU", "SIGXFSZ",
  "SIGVTALRM", "SIGPROF", "SIGWINCH", "SIGIO", "SIGPWR", "SIGSYS"]

def text : Ending → String
  | .exited code => "exit status: " ++ Nat.repr code
  | .killed signal =>
    "signal: " ++ Nat.repr signal ++ match signalNames[signal - 1]? with
      | some name => " (" ++ name ++ ")"
      | none => ""

end Ending

/-- A host of commands.  Operations of the file system that can fail give the system's words for
it; `launch` fails when a program cannot be started. -/
structure Host (σ : Type) extends World σ, Web σ where
  launch : Command → σ → Except String Completion × σ
  environment : Environment
  verbosity : Level
  say : Notice → σ → σ
  /-- Makes a directory of its own for some content. -/
  temporaryDirectory : σ → Except String String × σ
  makeDirectories : String → σ → Except String Unit × σ
  writeFile : String → List UInt8 → σ → Except String Unit × σ
  /-- The text of the cluster's configuration, if there is one. -/
  kubeconfig : σ → Option String
  /-- The path of the program that runs, if it can be told. -/
  executable : Except String String
  /-- The root of the repository that commands work on. -/
  repository : String
  /-- The text of a value in YAML, if it can be written. -/
  yamlText : Yaml → Option String

abbrev Errand (σ α : Type) := ExceptT Failure (StateM σ) α

namespace Errand

variable {σ α : Type}

def fail (text : String) : Errand σ α := throw (Failure.ofText text)

/-- An errand whose failure is put into a wider context. -/
def within (errand : Errand σ α) (context : String) : Errand σ α :=
  ExceptT.mk do return (← errand.run).mapError (·.within context)

/-- The result of an errand, failure or not. -/
def attempt (errand : Errand σ α) : Errand σ (Except Failure α) := ExceptT.mk do
  return .ok (← errand.run)

def ofSession (session : Session σ α) : Errand σ α := ExceptT.mk do
  return (← session.run).mapError Failure.ofError

def ofExcept (result : Except Failure α) : Errand σ α := ExceptT.mk (pure result)

end Errand

namespace Host

variable {σ : Type}

/-- Says something, if the verbosity allows. -/
def tell (host : Host σ) (notice : Notice) : Errand σ Unit := ExceptT.mk fun s =>
  (.ok (), if notice.shows host.verbosity then host.say notice s else s)

/-- An operation of the file system; its fault is the failure. -/
def onFiles {α : Type} (operation : σ → Except String α × σ) : Errand σ α := ExceptT.mk fun s =>
  let (result, s) := operation s
  (result.mapError Failure.ofText, s)

def temporary (host : Host σ) : Errand σ String := onFiles host.temporaryDirectory

end Host

def joinPath (directory name : String) : String :=
  if name.startsWith "/" then name
  else if directory.isEmpty ∨ directory.endsWith "/" then directory ++ name
  else directory ++ "/" ++ name

end ClusterHarness
