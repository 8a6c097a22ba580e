import ClusterHarness.Proofs.Host.Journaled

/-!
# Commands on a host with a journal

A command is launched once, and what is heard of it is what came of the launch.
-/

namespace ClusterHarness

variable {σ : Type}

namespace Launch

/-- What was printed, if the command ended well and printed a text. -/
def output? (launch : Launch) : Option String :=
  match launch.result with
  | .ok completion =>
    if completion.ending.success then (Utf8.decode completion.stdout).toOption else none
  | .error _ => none

/-- What is heard of a launch whose command has to succeed and to print a text. -/
def output (launch : Launch) : Except Failure String :=
  match launch.result with
  | .ok completion =>
    if completion.ending.success then
      (Utf8.decode completion.stdout).mapError fun fault => .ofText fault.message
    else
      .error (.ofText ("command: " ++ launch.command.text ++ "\nfailed with exit code: "
        ++ Nat.repr completion.ending.code ++ "\n" ++ Utf8.decodeLossy completion.stderr))
  | .error fault => .error ((Failure.ofText fault).within (Host.couldNotRun launch.command))

theorem toOption_output (launch : Launch) : launch.output.toOption = launch.output? := by
  unfold output output?
  cases launch.result with
  | error => rfl
  | ok completion =>
      dsimp only
      split
      · cases Utf8.decode completion.stdout <;> rfl
      · rfl

end Launch

namespace Host

def announced (host : Host σ) (command : Command) (s : σ) : σ :=
  host.told (.debug ("Running: " ++ command.text)) s

theorem journaled_announced (host : Host σ) (command : Command) (s : σ) (acts : List Act) :
    host.journaled.announced command (s, acts) = (host.announced command s, acts) :=
  host.journaled_told _ s acts

theorem run_start (host : Host σ) (command : Command) (s : σ) :
    (host.start command).run s =
      ((host.launch command (host.announced command s)).1.mapError Failure.ofText,
        (host.launch command (host.announced command s)).2) := by
  unfold start announced
  rw [run_tell_bind]
  rfl

theorem journaled_start (host : Host σ) (command : Command) (s : σ) (acts : List Act) :
    ∃ result t, (host.journaled.start command).run (s, acts) =
        (result.mapError Failure.ofText, (t, acts ++ [.launched ⟨command, result⟩])) := by
  rw [host.journaled.run_start, journaled_announced]
  exact ⟨_, _, rfl⟩

/-- A command that has to succeed is launched once, and its output is what is heard of that. -/
theorem run_outputOf (host : Host σ) {command asked : Command}
    (same : asked = { command with captured := true }) (s : σ) :
    (host.outputOf command).run s =
      ((Launch.mk asked (host.launch asked (host.announced asked s)).1).output,
        (host.launch asked (host.announced asked s)).2) := by
  have inContext : ((host.start asked).within (couldNotRun asked)).run s =
      (((host.launch asked (host.announced asked s)).1.mapError Failure.ofText).mapError
          (·.within (couldNotRun asked)),
        (host.launch asked (host.announced asked s)).2) := by
    rw [Errand.run_within, run_start]
  unfold outputOf Launch.output
  dsimp only
  rw [← same, exceptT_run_bind, inContext]
  obtain ⟨result, t⟩ := host.launch asked (host.announced asked s)
  cases result with
  | error fault => rfl
  | ok completion =>
      dsimp only [Except.mapError]
      cases completion.ending.success with
      | false => rfl
      | true =>
          rw [if_pos rfl, if_pos rfl]
          cases Utf8.decode completion.stdout with
          | error fault => rfl
          | ok text => rfl

theorem journaled_outputOf (host : Host σ) (command : Command) (s : σ) (acts : List Act) :
    ∃ launch t, (host.journaled.outputOf command).run (s, acts) =
        (launch.output, (t, acts ++ [.launched launch])) ∧
      launch.command = { command with captured := true } := by
  rw [host.journaled.run_outputOf rfl, journaled_announced]
  exact ⟨_, _, rfl, rfl⟩

theorem journaled_await (host : Host σ) (command : Command) (s : σ) (acts : List Act) :
    ∃ launch outcome t, (host.journaled.await command).run (s, acts) =
        (outcome, (t, acts ++ [.launched launch])) ∧
      launch.command = { command with captured := true } ∧
      (outcome = .ok () ↔ launch.succeeded = true) := by
  obtain ⟨result, t, started⟩ := host.journaled_start { command with captured := true } s acts
  refine ⟨⟨{ command with captured := true }, result⟩, ?_⟩
  unfold await Launch.succeeded
  dsimp only
  rw [Errand.run_attempt_bind, started]
  cases result with
  | error fault => exact ⟨_, t, rfl, rfl, nofun, nofun⟩
  | ok completion =>
      dsimp only [Except.mapError]
      cases completion.ending.success with
      | false => exact ⟨_, t, rfl, rfl, nofun, nofun⟩
      | true => exact ⟨_, t, rfl, rfl, fun _ => rfl, fun _ => rfl⟩

end Host

end ClusterHarness
