import ClusterHarness.Host.Basic

/-!
# Running commands

Child commands in the four ways that errands use them, and trying an errand again.
-/

namespace ClusterHarness

namespace Command

def ofProgram (program : String) (arguments : List String) : Command :=
  ⟨program, arguments, [], none, false⟩

def inside (command : Command) (directory : String) : Command :=
  { command with directory := some directory }

def withVariables (command : Command) (bindings : List (String × String)) : Command :=
  { command with bindings := command.bindings ++ bindings }

def text (command : Command) : String :=
  String.intercalate " " (command.program :: command.arguments)

end Command

namespace Host

variable {σ α : Type}

/-- Starts a command and waits for its end; the failure is the system's. -/
def start (host : Host σ) (command : Command) : Errand σ Completion := do
  host.tell (.debug ("Running: " ++ command.text))
  ExceptT.mk fun s =>
    let (result, s) := host.launch command s
    (result.mapError Failure.ofText, s)

def couldNotRun (command : Command) : String := "Could not run \x60" ++ command.text ++ "\x60"

/-- The output of a command that has to succeed. -/
def outputOf (host : Host σ) (command : Command) : Errand σ String := do
  let command := { command with captured := true }
  let completion ← (host.start command).within (couldNotRun command)
  if completion.ending.success then
    match Utf8.decode completion.stdout with
    | .ok text => return text
    | .error fault => Errand.fail fault.message
  else
    Errand.fail ("command: " ++ command.text ++ "\nfailed with exit code: "
      ++ Nat.repr completion.ending.code ++ "\n" ++ Utf8.decodeLossy completion.stderr)

/-- How a command ends whose output is passed on. -/
def endingOf (host : Host σ) (command : Command) : Errand σ Ending := do
  let completion ← (host.start command).within (couldNotRun command)
  return completion.ending

/-- Runs a command that has to succeed; its output is passed on. -/
def perform (host : Host σ) (command : Command) : Errand σ Unit := do
  let ending ← host.endingOf command
  if ending.success then return ()
  else
    Errand.fail ("command: " ++ command.text ++ "\nfailed with exit code: "
      ++ Nat.repr ending.code)

/-- Runs a command that has to succeed; its output shows only in its failure. -/
def await (host : Host σ) (command : Command) : Errand σ Unit := do
  let command := { command with captured := true }
  match ← (host.start command).attempt with
  | .error _ => Errand.fail ("could not run command: " ++ command.text)
  | .ok completion =>
    if completion.ending.success then return ()
    else
      Errand.fail (Utf8.decodeLossy completion.stdout ++ "\nfailed with exit code: "
        ++ Nat.repr completion.ending.code)

/-- Makes a failing errand again after a pause, while further attempts are left. -/
def retryFrom (host : Host σ) (attempts delay : Nat) (errand : Errand σ α) :
    Nat → Nat → Errand σ α
  | 0, _ => errand
  | left + 1, attempt => do
    match ← errand.attempt with
    | .ok value => return value
    | .error failure =>
      host.tell (.warning ("Attempt " ++ Nat.repr attempt ++ "/" ++ Nat.repr attempts
        ++ " failed: " ++ failure.text))
      ExceptT.mk fun s => (.ok (), host.toClocked.sleep delay s)
      host.retryFrom attempts delay errand left (attempt + 1)

/-- Makes an errand up to `attempts` times, and once at least; the last failure counts. -/
def retry (host : Host σ) (attempts delay : Nat) (errand : Errand σ α) : Errand σ α :=
  host.retryFrom attempts delay errand (attempts - 1) 1

end Host

end ClusterHarness
