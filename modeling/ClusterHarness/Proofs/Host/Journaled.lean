import ClusterHarness.Host.Run
import ClusterHarness.Proofs.Fixture.Journal

/-!
# What a host did

A host can keep a journal of all that it does to its surroundings, with what came of it.  What it
says is no act, and neither is a directory of its own.
-/

namespace ClusterHarness

variable {σ α β : Type}

/-- Something done to the surroundings, and what came of it. -/
inductive Act where
  | asked (request : ApiRequest) (reply : ApiReply)
  | fetched (request : Http.Request) (reply : Http.Reply)
  | launched (launch : Launch)
  | madeDirectories (path : String) (result : Except String Unit)
  | wrote (path : String) (content : List UInt8) (result : Except String Unit)

namespace Act

def noting (operation : σ → α × σ) (note : α → Act) (s : σ × List Act) : α × (σ × List Act) :=
  ((operation s.1).1, ((operation s.1).2, s.2 ++ [note (operation s.1).1]))

def unnoted (operation : σ → α × σ) (s : σ × List Act) : α × (σ × List Act) :=
  ((operation s.1).1, ((operation s.1).2, s.2))

end Act

/-! ## Steps of errands -/

namespace Errand

theorem run_ofSession (session : Session σ α) (s : σ) :
    (ofSession session).run s =
      ((session.run s).1.mapError Failure.ofError, (session.run s).2) :=
  rfl

/-- After a session that went well the errand goes on, else it has failed. -/
theorem run_ofSession_bind (session : Session σ α) (next : α → Errand σ β) (s : σ) :
    (ofSession session >>= next).run s =
      match session.run s with
      | (.ok value, t) => (next value).run t
      | (.error cause, t) => (.error (.ofError cause), t) := by
  rw [exceptT_run_bind, run_ofSession]
  obtain ⟨_ | _, _⟩ := session.run s <;> rfl

theorem ofSession_bind (session : Session σ α) (next : α → Session σ β) :
    ofSession (session >>= next) = ofSession session >>= fun value => ofSession (next value) := by
  refine ExceptT.ext (funext fun s => ?_)
  rw [run_ofSession_bind, run_ofSession, exceptT_run_bind]
  obtain ⟨_ | _, _⟩ := session.run s <;> rfl

theorem run_ofExcept_bind (result : Except Failure α) (next : α → Errand σ β) (s : σ) :
    (ofExcept result >>= next).run s =
      match result with
      | .ok value => (next value).run s
      | .error failure => (.error failure, s) := by
  have ran : (ofExcept result : Errand σ α).run s = (result, s) := rfl
  rw [exceptT_run_bind, ran]
  cases result <;> rfl

theorem run_within (errand : Errand σ α) (context : String) (s : σ) :
    (errand.within context).run s =
      ((errand.run s).1.mapError (·.within context), (errand.run s).2) :=
  rfl

/-- Whatever became of an attempt, the errand goes on. -/
theorem run_attempt_bind (errand : Errand σ α) (next : Except Failure α → Errand σ β) (s : σ) :
    (errand.attempt >>= next).run s = (next (errand.run s).1).run (errand.run s).2 := by
  have ran : errand.attempt.run s = (.ok (errand.run s).1, (errand.run s).2) := rfl
  rw [exceptT_run_bind, ran]

end Errand

namespace Host

def told (host : Host σ) (notice : Notice) (s : σ) : σ :=
  if notice.shows host.verbosity then host.say notice s else s

theorem run_tell (host : Host σ) (notice : Notice) (s : σ) :
    (host.tell notice).run s = (.ok (), host.told notice s) :=
  rfl

/-- After something has been said the errand goes on. -/
theorem run_tell_bind (host : Host σ) (notice : Notice) (next : Unit → Errand σ α) (s : σ) :
    (host.tell notice >>= next).run s = (next ()).run (host.told notice s) := by
  rw [exceptT_run_bind, run_tell]

/-! ## Journals -/

def journaled (host : Host σ) : Host (σ × List Act) where
  clock := host.clock
  now s := host.now s.1
  sleepUntil at_ s := (host.sleepUntil at_ s.1, s.2)
  draw := Act.unnoted host.draw
  patience := host.patience
  send request := Act.noting (host.send request) (.asked request)
  today s := host.today s.1
  random := Act.unnoted host.random
  fetch request := Act.noting (host.fetch request) (.fetched request)
  pageLimit := host.pageLimit
  launch command := Act.noting (host.launch command) fun result => .launched ⟨command, result⟩
  environment := host.environment
  verbosity := host.verbosity
  say notice s := (host.say notice s.1, s.2)
  temporaryDirectory := Act.unnoted host.temporaryDirectory
  makeDirectories path := Act.noting (host.makeDirectories path) (.madeDirectories path)
  writeFile path content := Act.noting (host.writeFile path content) (.wrote path content)
  kubeconfig s := host.kubeconfig s.1
  executable := host.executable
  repository := host.repository
  yamlText := host.yamlText

/-- Saying something leaves the journal as it is. -/
theorem journaled_told (host : Host σ) (notice : Notice) (s : σ) (acts : List Act) :
    host.journaled.told notice (s, acts) = (host.told notice s, acts) := by
  have same : host.journaled.verbosity = host.verbosity := rfl
  unfold told
  rw [same]
  split <;> rfl

theorem journaled_tell_bind (host : Host σ) (notice : Notice)
    (next : Unit → Errand (σ × List Act) α) (s : σ) (acts : List Act) :
    (host.journaled.tell notice >>= next).run (s, acts) =
      (next ()).run (host.told notice s, acts) := by
  rw [run_tell_bind, journaled_told]

end Host

/-! ## The web -/

/-- The note on a request that is sent, if there is one to send. -/
def Host.fetchNote (host : Host σ) (request : Option Http.Request) (s : σ) : List Act :=
  (request.map fun request => Act.fetched request (host.fetch request s).1).toList

theorem Host.journaled_exchange (host : Host σ) (request : Option Http.Request) (s : σ)
    (acts : List Act) :
    host.journaled.toWeb.exchange request (s, acts) =
      ((host.toWeb.exchange request s).1,
        ((host.toWeb.exchange request s).2, acts ++ host.fetchNote request s)) := by
  cases request with
  | none => exact congrArg (fun kept => (none, (s, kept))) (List.append_nil acts).symm
  | some request =>
      have noted : host.journaled.fetch request (s, acts) =
          ((host.fetch request s).1, ((host.fetch request s).2,
            acts ++ host.fetchNote (some request) s)) := rfl
      unfold Web.exchange
      dsimp only
      rw [noted]
      obtain ⟨_ | _, _⟩ := host.fetch request s <;> rfl

end ClusterHarness
