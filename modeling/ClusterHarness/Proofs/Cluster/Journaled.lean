import ClusterHarness.Proofs.Cluster.Requests

/-!
# What was seen in a session

A world can keep a journal of the requests sent in it and of what came back.  Whenever a session
has an object, the journal has the exchange that showed it.
-/

namespace ClusterHarness

variable {σ α β : Type}

/-- A request and what came back. -/
structure Exchange where
  request : ApiRequest
  reply : ApiReply

def ApiReply.text : ApiReply → Except CallError String
  | .answer status body => Http.accept status body
  | .broken text => .error (.transport text)

def Exchange.Shows [HasKind α] (e : Exchange) (request : Except CallError ApiRequest)
    (object : α) : Prop :=
  request = .ok e.request ∧ e.reply.text.bind (parsed HasKind.codec) = .ok object

def Exchange.object (α : Type) [HasKind α] (e : Exchange) : Except CallError α :=
  e.reply.text.bind (parsed HasKind.codec)

/-! ## Answers -/

theorem parsed_eq_ok {c : Codec α} {text : String} {a : α} :
    parsed c text = .ok a ↔
      ∃ document, Json.parse? text = some document ∧ c.read document = some a := by
  rw [← Option.bind_eq_some_iff, parsed]
  cases (Json.parse? text).bind c.read with
  | none => exact ⟨nofun, nofun⟩
  | some b => exact ⟨fun same => congrArg some (Except.ok.inj same),
      fun same => congrArg Except.ok (Option.some.inj same)⟩

theorem eq_undecodable_of_parsed {c : Codec α} {text : String} {cause : CallError}
    (failed : parsed c text = .error cause) : cause = .undecodable := by
  unfold parsed at failed
  split at failed <;> cases failed
  rfl

theorem Exchange.object_eq_ok [HasKind α] {e : Exchange} {object : α} :
    e.object α = .ok object ↔ ∃ text document, e.reply.text = .ok text ∧
      Json.parse? text = some document ∧ HasKind.codec.read document = some object := by
  unfold Exchange.object
  cases e.reply.text with
  | error => exact ⟨nofun, nofun⟩
  | ok text =>
      refine parsed_eq_ok.trans ⟨fun read => ⟨text, read.choose, rfl, read.choose_spec⟩, ?_⟩
      rintro ⟨_, document, ⟨⟩, read⟩
      exact ⟨document, read⟩

/-- Only the server says that an object is missing. -/
theorem Exchange.text_of_missing [HasKind α] {e : Exchange} {cause : CallError}
    (fails : e.object α = .error cause) (missing : cause.SaysMissing) :
    ∃ error, e.reply.text = .error (.api error) ∧ error.reason = "NotFound" := by
  unfold Exchange.object at fails
  cases answered : e.reply.text with
  | error told =>
      rw [answered] at fails
      cases fails
      cases cause with
      | api error => exact ⟨error, rfl, missing⟩
      | _ => exact missing.elim
  | ok text =>
      rw [answered] at fails
      cases eq_undecodable_of_parsed fails
      exact missing.elim

/-! ## Calls -/

namespace World

theorem textOf_run (w : World σ) (request : ApiRequest) (s : σ) :
    (w.textOf (.ok request)).run s = ((w.send request s).1.text, (w.send request s).2) := by
  have ready : (ExceptT.mk (pure (.ok request)) : Call σ ApiRequest).run s = (.ok request, s) := rfl
  unfold textOf
  rw [exceptT_run_bind, ready]
  dsimp only
  rw [exceptT_run_bind, exchange, ExceptT.run_mk]
  obtain ⟨_ | _, _⟩ := w.send request s <;> rfl

theorem objectOf_run_textOf [HasKind α] (w : World σ) (request : Except CallError ApiRequest)
    (s : σ) :
    (w.objectOf (α := α) request).run s =
      (((w.textOf request).run s).1.bind (parsed HasKind.codec), ((w.textOf request).run s).2) := by
  unfold objectOf
  rw [exceptT_run_bind]
  obtain ⟨_ | _, _⟩ := (w.textOf request).run s <;> rfl

theorem objectOf_run [HasKind α] (w : World σ) (request : ApiRequest) (s : σ) :
    (w.objectOf (α := α) (.ok request)).run s =
      ((w.send request s).1.text.bind (parsed HasKind.codec), (w.send request s).2) := by
  rw [objectOf_run_textOf, textOf_run]

theorem objectOf_error_run [HasKind α] (w : World σ) (cause : CallError) (s : σ) :
    (w.objectOf (α := α) (.error cause)).run s = (.error cause, s) :=
  rfl

end World

theorem Session.during_eq_ok {action : Action} {call : Call σ α} {s t : σ} {value : α} :
    (Session.during action call).run s = (.ok value, t) ↔ call.run s = (.ok value, t) := by
  have ran : (Session.during action call).run s =
      ((call.run s).1.mapError (Error.call action), (call.run s).2) := rfl
  rw [ran]
  generalize call.run s = outcome
  obtain ⟨cause | other, rest⟩ := outcome
  · exact ⟨nofun, nofun⟩
  · constructor <;> (intro same; cases same; rfl)

theorem Session.during_eq_error {action : Action} {call : Call σ α} {s t : σ} {failure : Error} :
    (Session.during action call).run s = (.error failure, t) ↔
      ∃ cause, call.run s = (.error cause, t) ∧ failure = .call action cause := by
  have ran : (Session.during action call).run s =
      ((call.run s).1.mapError (Error.call action), (call.run s).2) := rfl
  rw [ran]
  generalize call.run s = outcome
  obtain ⟨cause | _, rest⟩ := outcome
  · constructor
    · intro same
      cases same
      exact ⟨cause, rfl, rfl⟩
    · rintro ⟨_, same, rfl⟩
      cases same
      rfl
  · exact ⟨nofun, nofun⟩

theorem World.lookUp_eq_some [HasKind α] (w : World σ) {request : Except CallError ApiRequest}
    {s t : σ} {object : α} :
    (w.lookUp request).run s = (.ok (some object), t) ↔
      (w.objectOf request).run s = (.ok object, t) := by
  unfold lookUp
  rw [ExceptT.run_mk, stateM_bind_apply]
  generalize ExceptT.run (w.objectOf (α := α) request) s = outcome
  obtain ⟨cause | other, rest⟩ := outcome
  · constructor
    · intro found
      cases cause with
      | api error =>
          dsimp only at found
          split at found <;> cases found
      | _ => cases found
    · nofun
  · constructor <;> (intro same; cases same; rfl)

/-- An error counts as absence exactly if it says so. -/
theorem World.lookUp_run_of_error [HasKind α] (w : World σ)
    {request : Except CallError ApiRequest} {s t : σ} {cause : CallError}
    (failed : (w.objectOf (α := α) request).run s = (.error cause, t)) :
    (cause.SaysMissing → (w.lookUp (α := α) request).run s = (.ok none, t)) ∧
      (¬ cause.SaysMissing → (w.lookUp (α := α) request).run s = (.error cause, t)) := by
  unfold lookUp
  rw [ExceptT.run_mk, stateM_bind_apply, failed]
  cases cause with
  | api error =>
      constructor
      · intro missing
        dsimp only
        rw [if_pos (show error.reason = "NotFound" from missing)]
        rfl
      · intro other
        dsimp only
        rw [if_neg (show ¬error.reason = "NotFound" from other)]
        rfl
  | _ => exact ⟨False.elim, fun _ => rfl⟩

theorem World.lookUp_eq_none [HasKind α] (w : World σ) {request : Except CallError ApiRequest}
    {s t : σ} :
    (w.lookUp (α := α) request).run s = (.ok none, t) ↔
      ∃ cause, (w.objectOf (α := α) request).run s = (.error cause, t) ∧ cause.SaysMissing := by
  constructor
  · intro absent
    cases tried : (w.objectOf (α := α) request).run s with
    | mk outcome rest =>
        cases outcome with
        | ok object =>
            rw [w.lookUp_eq_some.mpr tried] at absent
            cases absent
        | error cause =>
            have either := w.lookUp_run_of_error tried
            by_cases missing : cause.SaysMissing
            · rw [either.1 missing] at absent
              cases absent
              exact ⟨cause, rfl, missing⟩
            · rw [either.2 missing] at absent
              cases absent
  · rintro ⟨cause, failed, missing⟩
    exact (w.lookUp_run_of_error failed).1 missing

/-- A look-up leaves behind what its only request does. -/
theorem World.lookUp_snd [HasKind α] (w : World σ) (request : Except CallError ApiRequest) (s : σ) :
    ((w.lookUp (α := α) request).run s).2 = ((w.textOf request).run s).2 := by
  unfold lookUp
  rw [ExceptT.run_mk, stateM_bind_apply, objectOf_run_textOf]
  cases ((w.textOf request).run s).1.bind (parsed (HasKind.codec (α := α))) with
  | ok => rfl
  | error cause =>
      cases cause with
      | api error =>
          dsimp only
          split <;> rfl
      | _ => rfl

/-! ## Journals -/

/-- The world with a journal of what was sent in it. -/
def World.journaled (w : World σ) : World (σ × List Exchange) where
  clock := w.clock
  now s := w.now s.1
  sleepUntil at_ s := (w.sleepUntil at_ s.1, s.2)
  draw s := ((w.draw s.1).1, ((w.draw s.1).2, s.2))
  patience := w.patience
  send request s :=
    ((w.send request s.1).1,
      ((w.send request s.1).2, s.2 ++ [⟨request, (w.send request s.1).1⟩]))
  today s := w.today s.1
  random s := ((w.random s.1).1, ((w.random s.1).2, s.2))

/-- In some state a request was sent and answered. -/
def World.Asked (w : World σ) (s : σ) (request : Except CallError ApiRequest) (e : Exchange)
    (t : σ) : Prop :=
  request = .ok e.request ∧ w.send e.request s = (e.reply, t)

theorem World.exists_asked (w : World σ) {request : Except CallError ApiRequest} {r : ApiRequest}
    (made : request = .ok r) (s : σ) : ∃ e t, w.Asked s request e t :=
  ⟨⟨r, (w.send r s).1⟩, (w.send r s).2, made, rfl⟩

/-- A call for an object is one exchange. -/
theorem World.Asked.objectOf_run [HasKind α] {w : World σ} {s t : σ}
    {request : Except CallError ApiRequest} {e : Exchange} (asked : w.Asked s request e t)
    (before : List Exchange) :
    (w.journaled.objectOf (α := α) request).run (s, before) =
      (e.object α, (t, before ++ [e])) := by
  obtain ⟨rfl, sent⟩ := asked
  rw [World.objectOf_run]
  show ((w.send e.request s).1.text.bind _,
    ((w.send e.request s).2, before ++ [⟨e.request, (w.send e.request s).1⟩])) = _
  rw [sent]
  rfl

theorem World.Asked.during_run [HasKind α] {w : World σ} {s t : σ}
    {request : Except CallError ApiRequest} {e : Exchange} (asked : w.Asked s request e t)
    (action : Action) (before : List Exchange) :
    (Session.during action (w.journaled.objectOf (α := α) request)).run (s, before) =
      ((e.object α).mapError (.call action), (t, before ++ [e])) := by
  show ((((w.journaled.objectOf _).run (s, before)).1).mapError _,
    ((w.journaled.objectOf _).run (s, before)).2) = _
  rw [asked.objectOf_run]

/-- The outcome of a call for an object was told by an exchange, unless the request could not be
made. -/
theorem World.journaled_objectOf_cases [HasKind α] (w : World σ)
    {request : Except CallError ApiRequest} {s : σ} {before : List Exchange}
    {outcome : Except CallError α} {u : σ × List Exchange}
    (ended : (w.journaled.objectOf request).run (s, before) = (outcome, u)) :
    (∃ cause, request = .error cause ∧ outcome = .error cause ∧ u = (s, before)) ∨
      ∃ e t, w.Asked s request e t ∧ e.object α = outcome ∧ u = (t, before ++ [e]) := by
  cases request with
  | error cause =>
      rw [objectOf_error_run] at ended
      cases ended
      exact Or.inl ⟨cause, rfl, rfl, rfl⟩
  | ok r =>
      obtain ⟨e, t, asked⟩ := w.exists_asked rfl s
      rw [asked.objectOf_run before] at ended
      cases ended
      exact Or.inr ⟨e, t, asked, rfl, rfl⟩

theorem World.asked_of_objectOf [HasKind α] (w : World σ)
    {request : Except CallError ApiRequest} {s : σ} {before : List Exchange} {object : α}
    {u : σ × List Exchange}
    (returned : (w.journaled.objectOf request).run (s, before) = (.ok object, u)) :
    ∃ e t, w.Asked s request e t ∧ e.object α = .ok object ∧ u = (t, before ++ [e]) := by
  rcases w.journaled_objectOf_cases returned with ⟨cause, _, impossible, _⟩ | told
  · cases impossible
  · exact told

/-- An object that a call returned was shown by the exchange noted last. -/
theorem World.journaled_objectOf [HasKind α] (w : World σ)
    {request : Except CallError ApiRequest} {s t : σ × List Exchange} {object : α}
    (returned : (w.journaled.objectOf request).run s = (.ok object, t)) :
    ∃ e : Exchange, e.Shows request object ∧ t.2 = s.2 ++ [e] := by
  cases request with
  | error cause =>
      rw [objectOf_error_run] at returned
      cases returned
  | ok request =>
      rw [objectOf_run] at returned
      obtain ⟨shown, rfl⟩ := Prod.mk.inj returned
      exact ⟨⟨request, (w.send request s.1).1⟩, ⟨rfl, shown⟩, rfl⟩

theorem World.journaled_lookUp [HasKind α] (w : World σ) {action : Action}
    {request : Except CallError ApiRequest} {s t : σ × List Exchange} {object : α}
    (found : (Session.during action (w.journaled.lookUp request)).run s = (.ok (some object), t)) :
    ∃ e : Exchange, e.Shows request object ∧ t.2 = s.2 ++ [e] :=
  w.journaled_objectOf (w.journaled.lookUp_eq_some.mp (Session.during_eq_ok.mp found))

/-! ## Writes -/

/-- The requests that did not only read. -/
def writes (journal : List Exchange) : List ApiRequest :=
  (journal.map (·.request)).filter fun request => ¬ request.Reads

theorem writes_append (earlier later : List Exchange) :
    writes (earlier ++ later) = writes earlier ++ writes later := by
  rw [writes, List.map_append, List.filter_append, writes, writes]

theorem writes_eq_nil {journal : List Exchange} (reads : ∀ e ∈ journal, e.request.Reads) :
    writes journal = [] := by
  refine List.filter_eq_nil_iff.mpr fun request member => ?_
  obtain ⟨e, noted, rfl⟩ := List.mem_map.mp member
  simpa using reads e noted

theorem writes_pair {e f : Exchange} (reads : e.request.Reads) (changes : ¬ f.request.Reads) :
    writes [e, f] = [f.request] := by
  simp [writes, reads, changes]

end ClusterHarness
