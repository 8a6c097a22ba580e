import ClusterHarness.Proofs.Cluster.Onward
import ClusterHarness.Proofs.Courses
import ClusterHarness.Proofs.Host.Commands
import ClusterHarness.Proofs.Hub.Listing

/-!
# What errands come to

On a host with a journal an errand comes to a result and to the acts that it adds to the journal.
What is known of both is put together as errands are: one rule for each way to do so, and one for
trying again, which goes by induction on the attempts that are left.
-/

namespace ClusterHarness

variable {σ α β : Type}

theorem isOk_mapError {ε φ : Type} (result : Except ε α) (f : ε → φ) :
    (result.mapError f).isOk = result.isOk := by
  cases result <;> rfl

namespace Errand

/-- From wherever it starts, the errand has such a result and adds such acts. -/
def ComesTo (errand : Errand (σ × List Act) α) (post : Except Failure α → List Act → Prop) :
    Prop :=
  ∀ s before, ∃ result t acts,
    errand.run (s, before) = (result, (t, before ++ acts)) ∧ post result acts

variable {errand : Errand (σ × List Act) α} {next : α → Errand (σ × List Act) β}
  {P : Except Failure α → List Act → Prop} {Q : Except Failure β → List Act → Prop}

theorem ComesTo.mono {weaker : Except Failure α → List Act → Prop} (comes : errand.ComesTo P)
    (implied : ∀ result acts, P result acts → weaker result acts) : errand.ComesTo weaker :=
  Yields.mono comes implied

theorem comesTo_pure {value : α} (holds : P (.ok value) []) :
    (pure value : Errand (σ × List Act) α).ComesTo P :=
  yields_pure holds

theorem comesTo_ofExcept {result : Except Failure α} (holds : P result []) :
    (ofExcept result : Errand (σ × List Act) α).ComesTo P := fun s before =>
  ⟨_, s, [], by rw [List.append_nil]; rfl, holds⟩

/-- What is known already decides whether the errand goes on. -/
theorem comesTo_ofExcept_bind {result : Except Failure α}
    (fails : ∀ failure, result = .error failure → Q (.error failure) [])
    (tail : ∀ value, result = .ok value → (next value).ComesTo Q) :
    (ofExcept result >>= next).ComesTo Q := by
  intro s before
  rw [run_ofExcept_bind]
  cases result with
  | error failure => exact ⟨_, s, [], by rw [List.append_nil], fails failure rfl⟩
  | ok value => exact tail value rfl s before

theorem comesTo_fail {text : String} (holds : P (.error (.ofText text)) []) :
    (fail text : Errand (σ × List Act) α).ComesTo P :=
  yields_throw holds

/-- The acts of two errands in turn follow one another, unless the first one fails. -/
theorem ComesTo.bind (head : errand.ComesTo P)
    (fails : ∀ failure acts, P (.error failure) acts → Q (.error failure) acts)
    (tail : ∀ value acts, P (.ok value) acts →
      (next value).ComesTo fun result more => Q result (acts ++ more)) :
    (errand >>= next).ComesTo Q :=
  Yields.bind head fails tail

/-- Whatever became of an attempt, its acts come first. -/
theorem ComesTo.attempt_bind {next : Except Failure α → Errand (σ × List Act) β}
    (head : errand.ComesTo P)
    (tail : ∀ outcome acts, P outcome acts →
      (next outcome).ComesTo fun result more => Q result (acts ++ more)) :
    (errand.attempt >>= next).ComesTo Q := by
  intro s before
  obtain ⟨outcome, t, acts, ran, known⟩ := head s before
  obtain ⟨result, u, more, ranOn, knownOn⟩ := tail outcome acts known t (before ++ acts)
  refine ⟨result, u, acts ++ more, ?_, knownOn⟩
  rw [run_attempt_bind, ran, ← List.append_assoc, ← ranOn]

theorem ComesTo.within {context : String} {Q : Except Failure α → List Act → Prop}
    (comes : errand.ComesTo P)
    (holds : ∀ result acts, P result acts → Q (result.mapError (·.within context)) acts) :
    (errand.within context).ComesTo Q := by
  intro s before
  obtain ⟨result, t, acts, ran, known⟩ := comes s before
  exact ⟨_, t, acts, by rw [run_within, ran], holds result acts known⟩

theorem ComesTo.map {f : α → β} (comes : errand.ComesTo P)
    (holds : ∀ result acts, P result acts → Q (result.map f) acts) :
    (f <$> errand).ComesTo Q :=
  Yields.map comes holds

/-- Saying something is no act. -/
theorem comesTo_tell_bind (host : Host σ) (notice : Notice)
    {next : Unit → Errand (σ × List Act) β} (tail : (next ()).ComesTo Q) :
    (host.journaled.tell notice >>= next).ComesTo Q := by
  intro s before
  rw [host.journaled_tell_bind]
  exact tail _ before

theorem comesTo_tell (host : Host σ) (notice : Notice)
    {P : Except Failure Unit → List Act → Prop} (holds : P (.ok ()) []) :
    (host.journaled.tell notice).ComesTo P := by
  intro s before
  refine ⟨_, host.told notice s, [], ?_, holds⟩
  rw [Host.run_tell, host.journaled_told, List.append_nil]

/-! ## Acts of one kind -/

def Only (errand : Errand (σ × List Act) α) (kind : Act → Prop) : Prop :=
  errand.ComesTo fun _ acts => ∀ act ∈ acts, kind act

variable {kind : Act → Prop}

theorem only_pure (value : α) : (pure value : Errand (σ × List Act) α).Only kind :=
  comesTo_pure nofun

theorem only_ofExcept (result : Except Failure α) :
    (ofExcept result : Errand (σ × List Act) α).Only kind :=
  comesTo_ofExcept nofun

theorem Only.bind (head : errand.Only kind) (tail : ∀ value, (next value).Only kind) :
    (errand >>= next).Only kind :=
  ComesTo.bind head (fun _ _ each => each) fun value _ each =>
    (tail value).mono fun _ _ others => List.forall_mem_append.mpr ⟨each, others⟩

theorem Only.within (only : errand.Only kind) (context : String) :
    (errand.within context).Only kind :=
  ComesTo.within only fun _ _ each => each

def Grown (kind : Act → Prop) (a b : σ × List Act) : Prop :=
  ∃ more, b.2 = a.2 ++ more ∧ ∀ act ∈ more, kind act

theorem only_of_leads (leads : Leads (Grown kind) errand.run) : errand.Only kind := by
  intro s before
  obtain ⟨more, grown, each⟩ := leads (s, before)
  exact ⟨_, _, more, Prod.ext rfl (Prod.ext rfl grown), each⟩

theorem only_ofSession {session : Session (σ × List Act) α}
    (leads : Leads (Grown kind) session.run) : (ofSession session).Only kind :=
  only_of_leads fun s => leads s

end Errand

namespace Act

def Asks (act : Act) : Prop := ∃ request reply, act = .asked request reply

end Act

namespace Host

open Errand

variable (host : Host σ)

/-- All that a session in the world does is to ask the API server. -/
theorem onwardInTime_grown : host.journaled.toWorld.OnwardInTime (Grown Act.Asks) where
  refl s := ⟨[], (List.append_nil s.2).symm, nofun⟩
  trans := by
    rintro ⟨_, first⟩ ⟨_, second⟩ ⟨_, third⟩ ⟨some, rfl, each⟩ ⟨more, rfl, others⟩
    exact ⟨some ++ more, List.append_assoc .., List.forall_mem_append.mpr ⟨each, others⟩⟩
  send request s := ⟨_, rfl, List.forall_mem_singleton.mpr ⟨request, _, rfl⟩⟩
  draw s := ⟨[], (List.append_nil s.2).symm, nofun⟩
  sleepUntil _ s := ⟨[], (List.append_nil s.2).symm, nofun⟩

/-- Neither is a directory of one's own, if it can be made. -/
theorem comesTo_temporary_bind {next : String → Errand (σ × List Act) β}
    {Q : Except Failure β → List Act → Prop}
    (fails : ∀ s fault, (host.temporaryDirectory s).1 = .error fault → Q (.error (.ofText fault)) [])
    (tail : ∀ directory, (next directory).ComesTo Q) :
    (host.journaled.temporary >>= next).ComesTo Q := by
  intro s before
  have made : host.journaled.temporary.run (s, before) =
      ((host.temporaryDirectory s).1.mapError Failure.ofText,
        ((host.temporaryDirectory s).2, before)) := rfl
  rw [exceptT_run_bind, made]
  cases outcome : (host.temporaryDirectory s).1 with
  | error fault => exact ⟨_, _, [], by rw [List.append_nil]; rfl, fails s fault outcome⟩
  | ok directory => exact tail directory _ before

/-- A file is written, or it is not. -/
theorem comesTo_writeFile (path : String) (content : List UInt8) :
    (onFiles (host.journaled.writeFile path content)).ComesTo fun result acts =>
      ∃ written, acts = [.wrote path content written] ∧
        result = written.mapError Failure.ofText := fun s _ =>
  ⟨_, _, _, rfl, (host.writeFile path content s).1, rfl, rfl⟩

/-! ## Commands -/

/-- One command is launched, and the success of the errand is the command's. -/
def Commands (command : Command) (result : Except Failure Unit) (acts : List Act) : Prop :=
  ∃ launch, acts = [.launched launch] ∧ launch.command = command ∧ result.isOk = launch.succeeded

theorem comesTo_outputOf (command : Command) :
    (host.journaled.outputOf command).ComesTo fun result acts => ∃ launch : Launch,
      acts = [.launched launch] ∧ launch.command = { command with captured := true } ∧
        result = launch.output := by
  intro s before
  obtain ⟨launch, t, ran, launched⟩ := host.journaled_outputOf command s before
  exact ⟨_, t, _, ran, launch, rfl, launched, rfl⟩

theorem comesTo_await (command : Command) :
    (host.journaled.await command).ComesTo (Commands { command with captured := true }) := by
  intro s before
  obtain ⟨launch, outcome, t, ran, same, succeeded⟩ := host.journaled_await command s before
  refine ⟨outcome, t, _, ran, launch, rfl, same, Bool.eq_iff_iff.mpr ?_⟩
  rw [← succeeded]
  cases outcome with
  | ok => exact ⟨fun _ => rfl, fun _ => rfl⟩
  | error => exact ⟨nofun, nofun⟩

theorem comesTo_perform (command : Command) :
    (host.journaled.perform command).ComesTo (Commands command) := by
  intro s before
  obtain ⟨result, t, started⟩ := host.journaled_start command s before
  have inContext : ((host.journaled.start command).within (couldNotRun command)).run (s, before) =
      ((result.mapError Failure.ofText).mapError (·.within (couldNotRun command)),
        (t, before ++ [.launched ⟨command, result⟩])) := by
    rw [run_within, started]
  unfold perform endingOf Commands
  rw [exceptT_run_bind, exceptT_run_bind, inContext]
  cases result with
  | error fault => exact ⟨_, t, _, rfl, _, rfl, rfl, rfl⟩
  | ok completion =>
      have ended : (pure completion.ending : Errand (σ × List Act) Ending).run
          (t, before ++ [.launched ⟨command, .ok completion⟩]) =
            (.ok completion.ending, (t, before ++ [.launched ⟨command, .ok completion⟩])) := rfl
      dsimp only [Except.mapError]
      rw [ended]
      dsimp only
      cases good : completion.ending.success with
      | true => exact ⟨_, t, _, rfl, _, rfl, rfl, good.symm⟩
      | false => exact ⟨_, t, _, rfl, _, rfl, rfl, good.symm⟩

/-! ## Trying again -/

/-- An errand is made up to so many times more, and again only after it failed. -/
inductive Attempts (P : Except Failure α → List Act → Prop) :
    Nat → Except Failure α → List Act → Prop where
  | last {result : Except Failure α} {acts : List Act} (made : P result acts) :
      Attempts P 0 result acts
  | succeeds {left : Nat} {value : α} {acts : List Act} (made : P (.ok value) acts) :
      Attempts P (left + 1) (.ok value) acts
  | again {left : Nat} {failure : Failure} {result : Except Failure α} {acts more : List Act}
      (made : P (.error failure) acts) (others : Attempts P left result more) :
      Attempts P (left + 1) result (acts ++ more)

theorem comesTo_retryFrom {errand : Errand (σ × List Act) α}
    {P : Except Failure α → List Act → Prop} (comes : errand.ComesTo P) (attempts delay : Nat)
    (left attempt : Nat) :
    (host.journaled.retryFrom attempts delay errand left attempt).ComesTo (Attempts P left) := by
  induction left generalizing attempt with
  | zero =>
      rw [retryFrom]
      exact comes.mono fun _ _ => .last
  | succ left ih =>
      rw [retryFrom]
      refine comes.attempt_bind fun outcome acts made => ?_
      cases outcome with
      | ok value => exact comesTo_pure (by rw [List.append_nil]; exact .succeeds made)
      | error failure =>
          refine comesTo_tell_bind host _ fun s before => ?_
          obtain ⟨result, t, more, ran, others⟩ :=
            ih (attempt + 1) (host.toClocked.sleep delay s) before
          exact ⟨result, t, more, ran, .again made others⟩

end Host

/-! ## The web -/

def Http.Reply.answer? : Http.Reply → Option (Nat × List UInt8)
  | .answer status body => some (status, body)
  | .closed => none

namespace Host

open Errand

/-- A request is sent once, if there is one to send. -/
inductive Exchanged : Option Http.Request → Option (Nat × List UInt8) → List Act → Prop where
  | none : Exchanged none none []
  | sent {request : Http.Request} {reply : Http.Reply} :
      Exchanged (some request) reply.answer? [.fetched request reply]

theorem comesTo_exchange (host : Host σ) (request : Option Http.Request) :
    ComesTo (ExceptT.lift (host.journaled.toWeb.exchange request)) fun result acts =>
      ∃ answer, result = .ok answer ∧ Exchanged request answer acts := by
  intro s before
  have ran := host.journaled_exchange request s before
  refine ⟨.ok (host.toWeb.exchange request s).1, (host.toWeb.exchange request s).2,
    host.fetchNote request s, ?_, _, rfl, ?_⟩
  · have lifted : (ExceptT.lift (host.journaled.toWeb.exchange request) :
        Errand (σ × List Act) (Option (Nat × List UInt8))).run (s, before) =
          (.ok (host.journaled.toWeb.exchange request (s, before)).1,
            (host.journaled.toWeb.exchange request (s, before)).2) := rfl
    rw [lifted, ran]
  · cases request with
    | none => exact .none
    | some request =>
        have answered : (host.toWeb.exchange (some request) s).1 =
            (host.fetch request s).1.answer? := by
          unfold Web.exchange
          dsimp only
          obtain ⟨_ | _, _⟩ := host.fetch request s <;> rfl
        rw [answered]
        exact .sent

/-- An exchange does not fail: that no answer came is for what follows. -/
theorem comesTo_exchange_bind (host : Host σ) {request : Option Http.Request}
    {next : Option (Nat × List UInt8) → Errand (σ × List Act) α}
    {Q : Except Failure α → List Act → Prop}
    (tail : ∀ answer acts, Exchanged request answer acts →
      (next answer).ComesTo fun result more => Q result (acts ++ more)) :
    ComesTo (ExceptT.lift (host.journaled.toWeb.exchange request) >>= next) Q := by
  refine ComesTo.bind (host.comesTo_exchange request) (fun _ _ impossible => ?_)
    fun answer acts exchanged => ?_
  · obtain ⟨_, same, _⟩ := impossible
    cases same
  · obtain ⟨_, same, exchanged⟩ := exchanged
    cases same
    exact tail answer acts exchanged

end Host

end ClusterHarness
