import ClusterHarness.Proofs.Json.Texts
import ClusterHarness.Proofs.Platform.Preparation
import ClusterHarness.Proofs.Platform.Selectors
import ClusterHarness.Proofs.Text.Utf8

/-!
# Prepared namespaces stay as they are

On a server that stores what it is sent, a call for a test namespace changes at most one label of
the namespace: everything else is as before, in whole seconds, and a second call finds nothing to
write.
-/

namespace ClusterHarness

variable {σ : Type}

/-! ## A server that stores what it is sent -/

namespace World

/-- If the request is answered with a text, the document is stored and the text shows it. -/
def Stores (w : World σ) (held : σ → Option Json) (request : Except CallError ApiRequest)
    (document : Json) (s : σ) : Prop :=
  ∀ e t text, w.Asked s request e t → e.reply.text = .ok text →
    held t = some document ∧ Json.parse? text = some document

/-- A server that holds a namespace, or none, and stores what it is sent.  It may refuse any request
and break off any answer, but what it says about the namespace is so. -/
structure Keeps (w : World σ) (name : String) (held : σ → Option Json) : Prop where
  reads : ∀ request s, request.Reads → held (w.send request s).2 = held s
  shows : ∀ s e t text, w.Asked s (namespaceRequest name) e t → e.reply.text = .ok text →
    ∃ document, held s = some document ∧ Json.parse? text = some document
  misses : ∀ s e t error, w.Asked s (namespaceRequest name) e t →
    e.reply.text = .error (.api error) → error.reason = "NotFound" → held s = none
  adds : ∀ ns s, ns.metadata.name = some name →
    w.Stores held (ApiRequest.create .cluster Namespace.kind (Namespace.codec.write ns))
      (Namespace.codec.write ns) s
  replaces : ∀ ns s,
    w.Stores held (ApiRequest.replace .cluster Namespace.kind name (Namespace.codec.write ns))
      (Namespace.codec.write ns) s
  draws : ∀ s, held (w.draw s).2 = held s
  sleeps : ∀ at_ s, held (w.sleepUntil at_ s) = held s

/-- What a call for a test namespace that came to a namespace leaves behind.  A namespace that was
absent is as new.  One that had the label is untouched, and nothing is written.  Any other one is
written once, with the label set. -/
structure Leaves (name : String) (before after : Option Json) (ns : Namespace)
    (journal : List Exchange) : Prop where
  stored : ∃ document, after = some document ∧ Namespace.codec.read document = some ns
  managed : ns.isManaged = true
  once : (writes journal).length ≤ 1
  /-- There was no namespace, or one that could be read. -/
  readable : ∀ document, before = some document →
    ∃ present, Namespace.codec.read document = some present
  absent : before = none → ns = Namespace.template name ∧
    ∃ request, namespaceAddition name = .ok request ∧ writes journal = [request]
  labelled : ∀ document present, before = some document →
    Namespace.codec.read document = some present → present.isManaged = true →
      ns = present ∧ after = before ∧ writes journal = []
  unlabelled : ∀ document present, before = some document →
    Namespace.codec.read document = some present → present.isManaged = false →
      present.Relabelled ns ∧
        ∃ request, namespaceRelabelling name present = .ok request ∧ writes journal = [request]

section

variable {w : World σ} {name : String} {held : σ → Option Json} {s t u : σ} {e f : Exchange}
  {cause : CallError} {ns : Namespace} {journal : List Exchange}

/-- A namespace that is shown when it is written is read from what was written. -/
theorem Stores.read {request : Except CallError ApiRequest} {document : Json}
    (stores : w.Stores held request document s) (asked : w.Asked s request e t)
    (shown : e.object Namespace = .ok ns) :
    held t = some document ∧ Namespace.codec.read document = some ns := by
  obtain ⟨text, parsed, answered, spelled, read⟩ := Exchange.object_eq_ok.mp shown
  obtain ⟨holds, spells⟩ := stores e t text asked answered
  cases spelled.symm.trans spells
  exact ⟨holds, read⟩

/-- What is held is read in one way only. -/
theorem eq_of_held {before : Option Json} {document other : Json} {present : Namespace}
    (holds : before = some document) (read : Namespace.codec.read document = some ns)
    (another : before = some other) (found : Namespace.codec.read other = some present) :
    present = ns := by
  cases holds.symm.trans another
  exact Option.some.inj (found.symm.trans read)

namespace Keeps

variable (keeps : w.Keeps name held)
include keeps

theorem held_of_asked {request : Except CallError ApiRequest} (asked : w.Asked s request e t)
    (reads : e.request.Reads) : held t = held s := by
  have same := keeps.reads e.request s reads
  rwa [asked.2] at same

theorem held_of_shown (asked : w.Asked s (namespaceRequest name) e t)
    (shown : e.object Namespace = .ok ns) :
    ∃ document, held s = some document ∧ Namespace.codec.read document = some ns := by
  obtain ⟨text, document, answered, spelled, read⟩ := Exchange.object_eq_ok.mp shown
  obtain ⟨kept, holds, spells⟩ := keeps.shows s e t text asked answered
  cases spelled.symm.trans spells
  exact ⟨document, holds, read⟩

theorem held_of_missing (asked : w.Asked s (namespaceRequest name) e t)
    (fails : e.object Namespace = .error cause) (missing : cause.SaysMissing) : held s = none := by
  obtain ⟨error, answered, reason⟩ := Exchange.text_of_missing fails missing
  exact keeps.misses s e t error asked answered reason

/-! ### Before the wait -/

theorem leaves_found (asked : w.Asked s (namespaceRequest name) e t)
    (shown : e.object Namespace = .ok ns) (managed : ns.isManaged = true) :
    Leaves name (held s) (held t) ns [e] := by
  have reads : e.request.Reads := ApiRequest.reads_get asked.1
  have same := keeps.held_of_asked asked reads
  obtain ⟨document, holds, read⟩ := keeps.held_of_shown asked shown
  constructor
  case stored => exact ⟨document, same.trans holds, read⟩
  case managed => exact managed
  case once => rw [writes_eq_nil (List.forall_mem_singleton.mpr reads)]; exact Nat.zero_le 1
  case readable =>
    intro other another
    cases holds.symm.trans another
    exact ⟨ns, read⟩
  case absent =>
    intro none
    cases holds.symm.trans none
  case labelled =>
    intro other present another found _
    have only := eq_of_held holds read another found
    exact ⟨only.symm, same, writes_eq_nil (List.forall_mem_singleton.mpr reads)⟩
  case unlabelled =>
    intro other present another found unmanaged
    rw [eq_of_held holds read another found, managed] at unmanaged
    cases unmanaged

theorem leaves_added (asked : w.Asked s (namespaceRequest name) e t)
    (fails : e.object Namespace = .error cause) (missing : cause.SaysMissing)
    (sent : w.Asked t (namespaceAddition name) f u) (shown : f.object Namespace = .ok ns) :
    Leaves name (held s) (held u) ns [e, f] := by
  have none := keeps.held_of_missing asked fails missing
  obtain ⟨holds, read⟩ := (keeps.adds (Namespace.template name) t rfl).read sent shown
  have new := Namespace.eq_template_of_read read
  have written : writes [e, f] = [f.request] :=
    writes_pair (ApiRequest.reads_get asked.1) (ApiRequest.not_reads_create sent.1)
  constructor
  case stored => exact ⟨_, holds, read⟩
  case managed => exact new ▸ Namespace.isManaged_template name
  case once => rw [written]; exact Nat.le_refl 1
  case readable =>
    intro document some
    cases none.symm.trans some
  case absent =>
    intro _
    exact ⟨new, f.request, sent.1, written⟩
  case labelled =>
    intro document present some
    cases none.symm.trans some
  case unlabelled =>
    intro document present some
    cases none.symm.trans some

theorem leaves_replaced {before : Namespace} (asked : w.Asked s (namespaceRequest name) e t)
    (shown : e.object Namespace = .ok before) (unmanaged : before.isManaged = false)
    (sent : w.Asked t (namespaceRelabelling name before) f u)
    (told : f.object Namespace = .ok ns) : Leaves name (held s) (held u) ns [e, f] := by
  obtain ⟨document, holds, read⟩ := keeps.held_of_shown asked shown
  obtain ⟨after, reread⟩ := (keeps.replaces before.managed t).read sent told
  have relabelled := Namespace.relabelled_of_read read reread
  have written : writes [e, f] = [f.request] :=
    writes_pair (ApiRequest.reads_get asked.1) (ApiRequest.not_reads_replace sent.1)
  constructor
  case stored => exact ⟨_, after, reread⟩
  case managed => exact relabelled.managed
  case once => rw [written]; exact Nat.le_refl 1
  case readable =>
    intro other another
    cases holds.symm.trans another
    exact ⟨before, read⟩
  case absent =>
    intro none
    cases holds.symm.trans none
  case labelled =>
    intro other present another found managed
    rw [eq_of_held holds read another found, unmanaged] at managed
    cases managed
  case unlabelled =>
    intro other present another found _
    cases eq_of_held holds read another found
    exact ⟨relabelled, f.request, sent.1, written⟩

theorem leaves_arranged (arranged : w.Arranged name s (.ok ns) journal u) :
    Leaves name (held s) (held u) ns journal := by
  generalize ended : (Except.ok ns : Except Error Namespace) = outcome at arranged
  cases arranged with
  | unasked => cases ended
  | unread => cases ended
  | found asked shown managed =>
      cases ended
      exact keeps.leaves_found asked shown managed
  | @added e f t _ _ asked fails missing sent =>
      cases shown : f.object Namespace with
      | error =>
          rw [shown] at ended
          cases ended
      | ok =>
          rw [shown] at ended
          cases ended
          exact keeps.leaves_added asked fails missing sent shown
  | @replaced e f t _ _ asked shown unmanaged sent =>
      cases told : f.object Namespace with
      | error =>
          rw [told] at ended
          cases ended
      | ok =>
          rw [told] at ended
          cases ended
          exact keeps.leaves_replaced asked shown unmanaged sent told

end Keeps

/-! ### The wait -/

/-- What is held stays, and only the service account is asked for. -/
def Awaiting (held : σ → Option Json) (name : String) (s t : σ × List Exchange) : Prop :=
  held t.1 = held s.1 ∧ AskedFor (accountRequest name) s t

theorem serviceAccountPresent_snd (w : World σ) (ns account : String) (s : σ) :
    ((w.serviceAccountPresent ns account) s).2 =
      ((w.textOf (ApiRequest.get (.namespaced ns) (kindOf ServiceAccount) account)).run s).2 := by
  have looked : ((w.getOpt ServiceAccount ns account).run s).2 =
      ((w.textOf (ApiRequest.get (.namespaced ns) (kindOf ServiceAccount) account)).run s).2 :=
    w.lookUp_snd _ s
  rw [serviceAccountPresent, stateM_bind_apply, Session.attempt, ← looked]
  obtain ⟨_ | _ | _, _⟩ := (w.getOpt ServiceAccount ns account).run s <;> rfl

namespace Keeps

variable (keeps : w.Keeps name held)
include keeps

theorem inTime_awaiting : w.journaled.InTime (Awaiting held name) where
  refl s := ⟨rfl, (w.inTime_askedFor _).refl s⟩
  trans first second := ⟨second.1.trans first.1, (w.inTime_askedFor _).trans first.2 second.2⟩
  draw s := ⟨keeps.draws s.1, (w.inTime_askedFor _).draw s⟩
  sleepUntil at_ s := ⟨keeps.sleeps at_ s.1, (w.inTime_askedFor _).sleepUntil at_ s⟩

theorem leads_serviceAccountPresent :
    Leads (Awaiting held name) (w.journaled.serviceAccountPresent name pipelineAccount) := by
  rintro ⟨s, before⟩
  rw [serviceAccountPresent_snd]
  change Awaiting held name (s, before)
    ((w.journaled.textOf (accountRequest name)).run (s, before)).2
  cases made : accountRequest name with
  | error cause => exact keeps.inTime_awaiting.refl (s, before)
  | ok request =>
      rw [textOf_run]
      refine ⟨keeps.reads request s (ApiRequest.reads_get made), _, rfl, ?_⟩
      exact List.forall_mem_singleton.mpr made

theorem leads_awaitPipelineAccount :
    Leads (Awaiting held name) (w.journaled.awaitPipelineAccount name).run :=
  keeps.inTime_awaiting.leads_waitFor keeps.leads_serviceAccountPresent _ _

end Keeps

theorem Awaiting.writes_eq {s t : σ × List Exchange} (awaiting : Awaiting held name s t) :
    writes t.2 = writes s.2 := by
  obtain ⟨_, notes, grown, asks⟩ := awaiting
  have reads : ∀ e ∈ notes, e.request.Reads := fun e noted => ApiRequest.reads_get (asks e noted)
  rw [grown, writes_append, writes_eq_nil reads, List.append_nil]

theorem Leaves.of_writes_eq {before after : Option Json} {earlier later : List Exchange}
    (leaves : Leaves name before after ns earlier) (same : writes later = writes earlier) :
    Leaves name before after ns later where
  stored := leaves.stored
  managed := leaves.managed
  once := same ▸ leaves.once
  readable := leaves.readable
  absent none := same ▸ leaves.absent none
  labelled document present holds read managed :=
    same ▸ leaves.labelled document present holds read managed
  unlabelled document present holds read unmanaged :=
    same ▸ leaves.unlabelled document present holds read unmanaged

/-- A call that comes to a namespace leaves the server's namespace as it is told. -/
theorem Keeps.leaves (keeps : w.Keeps name held)
    (returned : (w.journaled.createTestNamespace name).run (s, []) = (.ok ns, (t, journal))) :
    Leaves name (held s) (held t) ns journal := by
  obtain ⟨exchanges, u, arranged, same | awaited⟩ := arranged_of_returned returned
  · cases same
    exact keeps.leaves_arranged arranged
  · have awaiting := keeps.leads_awaitPipelineAccount (u, exchanges)
    rw [awaited] at awaiting
    have leaves := keeps.leaves_arranged arranged
    rw [← awaiting.1] at leaves
    exact leaves.of_writes_eq awaiting.writes_eq

/-! ### The next call -/

/-- A call for a test namespace that the server holds is one look-up and nothing else. -/
structure Revisit (w : World σ) (held : σ → Option Json) (name : String) (ns : Namespace) (s : σ)
    (e : Exchange) (t : σ) : Prop where
  asked : w.Asked s (namespaceRequest name) e t
  reads : e.request.Reads
  kept : held t = held s
  answered : ∀ text, e.reply.text = .ok text →
    (w.journaled.createTestNamespace name).run (s, []) = (.ok ns, (t, [e]))
  refused : ∀ cause, e.reply.text = .error cause →
    (w.journaled.createTestNamespace name).run (s, []) =
      (.error (.call (.getNamespace name) cause), (t, [e]))

theorem Keeps.revisits (keeps : w.Keeps name held) {document : Json} {request : ApiRequest}
    (made : namespaceRequest name = .ok request) (holds : held s = some document)
    (read : Namespace.codec.read document = some ns) (managed : ns.isManaged = true) :
    ∃ e t, w.Revisit held name ns s e t := by
  obtain ⟨e, t, asked⟩ := w.exists_asked made s
  have reads : e.request.Reads := ApiRequest.reads_get asked.1
  refine ⟨e, t, asked, reads, keeps.held_of_asked asked reads, ?_, ?_⟩
  · intro text answered
    obtain ⟨other, another, spelled⟩ := keeps.shows s e t text asked answered
    cases holds.symm.trans another
    have shown : e.object Namespace = .ok ns :=
      Exchange.object_eq_ok.mpr ⟨text, document, answered, spelled, read⟩
    exact createTestNamespace_of_managed (findNamespace_of_shown asked shown) managed
  · intro cause answered
    have fails : e.object Namespace = .error cause := by
      rw [Exchange.object, answered]
      rfl
    have other : ¬ cause.SaysMissing := fun missing => by
      cases holds.symm.trans (keeps.held_of_missing asked fails missing)
    exact (Arranged.unread asked fails other).run_of_error

theorem Arranged.exists_request {outcome : Except Error Namespace}
    (arranged : w.Arranged name s outcome journal u) (came : outcome = .ok ns) :
    ∃ request, namespaceRequest name = .ok request := by
  cases arranged with
  | unasked => cases came
  | unread asked => exact ⟨_, asked.1⟩
  | found asked => exact ⟨_, asked.1⟩
  | added asked => exact ⟨_, asked.1⟩
  | replaced asked => exact ⟨_, asked.1⟩

end

/-- What a call for a test namespace does, if the server keeps the namespace as it is told. -/
structure Prepares (w : World σ) (name : String) : Prop where
  leaves : ∀ held, w.Keeps name held → ∀ s ns t journal,
    (w.journaled.createTestNamespace name).run (s, []) = (.ok ns, (t, journal)) →
      Leaves name (held s) (held t) ns journal
  /-- A second call finds the namespace and changes nothing. -/
  revisits : ∀ held, w.Keeps name held → ∀ s ns t journal,
    (w.journaled.createTestNamespace name).run (s, []) = (.ok ns, (t, journal)) →
      ∃ e u, w.Revisit held name ns t e u
  /-- A request that fails before the service account is waited for ends the call. -/
  fails : ∀ s failure exchanges t, w.Arranged name s (.error failure) exchanges t →
    (w.journaled.createTestNamespace name).run (s, []) = (.error failure, (t, exchanges))

/-- Preparing a namespace changes at most its label, and preparing it again changes nothing. -/
theorem createTestNamespace_prepares (w : World σ) (name : String) : w.Prepares name where
  leaves _ keeps _ _ _ _ returned := keeps.leaves returned
  revisits held keeps s ns t journal returned := by
    have leaves := keeps.leaves returned
    obtain ⟨document, holds, read⟩ := leaves.stored
    obtain ⟨_, _, arranged, _⟩ := arranged_of_returned returned
    obtain ⟨request, made⟩ := arranged.exists_request rfl
    exact keeps.revisits made holds read leaves.managed
  fails _ _ _ _ arranged := arranged.run_of_error

/-- All but the labels of the namespace is just as before. -/
def PreservesAll (w : World σ) (held : σ → Option Json) (name : String) (s : σ) : Prop :=
  ∀ document present ns t, held s = some document →
    Namespace.codec.read document = some present →
    (w.journaled.createTestNamespace name).run (s, []) = (.ok ns, t) →
      ns.unlabelled = present.unlabelled

/-- Every failure of the first request is returned, unless its status says that there is no
namespace. -/
def ReturnsOther (w : World σ) (name : String) (s : σ) : Prop :=
  ∀ e t status body cause, w.Asked s (namespaceRequest name) e t →
    e.reply = .answer status body → status ≠ 404 → e.object Namespace = .error cause →
      (w.journaled.createTestNamespace name).run (s, []) =
        (.error (.call (.getNamespace name) cause), (t, [e]))

end World

namespace Rehearsal

structure Registry where
  now : Nat
  held : Option Json

/-- The document, or nothing if its text would not be read as the document again. -/
def spelling (document : Json) : ApiReply :=
  if Json.isExact 127 document then .answer 200 (Utf8.encode (Json.compact document))
  else .broken "unspeakable"

def absence : String :=
  "\x7b\"status\":\"Failure\",\"reason\":\"NotFound\",\"code\":404\x7d"

theorem text_absence {status : Nat} (fails : Http.isErrorStatus status = true) :
    ∃ error, (ApiReply.answer status (Utf8.encode absence)).text = .error (.api error) ∧
      error.reason = "NotFound" := by
  have read : (Json.parse? absence).bind ApiError.codec.read =
      some ⟨"Failure", "", "NotFound", 404⟩ := by
    decide +kernel
  refine ⟨⟨"Failure", "", "NotFound", 404⟩, ?_, rfl⟩
  rw [ApiReply.text, Http.accept, Utf8.decode_encode]
  dsimp only
  rw [if_pos fails, ApiError.ofBody, read]

def Registry.shown (status : Nat) (s : Registry) : ApiReply :=
  s.held.elim (.answer status (Utf8.encode absence)) spelling

/-- A server that holds one namespace, with its service account, and stores what it is sent.  It
says with some status that there is no namespace. -/
def registry (status : Nat) : World Registry where
  toClocked := clocked (·.now) fun now s => { s with now }
  today _ := ⟨⟨2023, 3, 1⟩, 0, 0, 0⟩
  random s := (numbers s.now, s)
  send request s :=
    if request.Reads then
      if request.target.path = "/api/v1/namespaces/demo" then (s.shown status, s)
      else (spelling (.obj []), s)
    else
      match request.body with
      | some document => (spelling document, { s with held := some document })
      | none => (.broken "", s)

theorem text_spelling {document : Json} (exact_ : Json.isExact 127 document = true) :
    (spelling document).text = .ok (Json.compact document) := by
  rw [spelling, if_pos exact_, ApiReply.text, Http.accept, Utf8.decode_encode]
  rfl

theorem parse?_of_spelling {document : Json} {text : String}
    (answered : (spelling document).text = .ok text) :
    Json.isExact 127 document = true ∧ Json.parse? text = some document := by
  by_cases exact_ : Json.isExact 127 document = true
  · cases (text_spelling exact_).symm.trans answered
    exact ⟨exact_, Json.parse?_compact (Json.exact_of_isExact exact_)⟩
  · rw [spelling, if_neg exact_] at answered
    cases answered

/-- A document that is spelled out is read as an object that it is read as. -/
theorem object_spelling {α : Type} [HasKind α] {request : ApiRequest} {document : Json} {object : α}
    (exact_ : Json.isExact 127 document = true)
    (read : HasKind.codec.read document = some object) :
    Exchange.object α ⟨request, spelling document⟩ = .ok object :=
  Exchange.object_eq_ok.mpr ⟨_, document, text_spelling exact_,
    Json.parse?_compact (Json.exact_of_isExact exact_), read⟩

theorem target_demo :
    Target.make "/api/v1/namespaces/demo" [] = some ⟨"/api/v1/namespaces/demo", []⟩ := by
  decide +kernel

theorem namespaceRequest_demo :
    namespaceRequest "demo" = .ok ⟨"GET", ⟨"/api/v1/namespaces/demo", []⟩, none, none⟩ :=
  ApiRequest.get_eq_ok.mpr ⟨by decide, _, target_demo, rfl⟩

theorem namespaceRelabelling_demo (ns : Namespace) :
    namespaceRelabelling "demo" ns =
      .ok ⟨"PUT", ⟨"/api/v1/namespaces/demo", []⟩, ApiRequest.jsonType,
        some (Namespace.codec.write ns.managed)⟩ :=
  ApiRequest.replace_eq_ok.mpr ⟨by decide, _, target_demo, rfl⟩

theorem namespaceAddition_demo :
    namespaceAddition "demo" =
      .ok ⟨"POST", ⟨"/api/v1/namespaces", []⟩, ApiRequest.jsonType,
        some (Namespace.codec.write (Namespace.template "demo"))⟩ := by
  have made : Target.make "/api/v1/namespaces" [] = some ⟨"/api/v1/namespaces", []⟩ := by
    decide +kernel
  exact ApiRequest.make_eq_ok.mpr ⟨_, made, rfl⟩

theorem accountRequest_demo :
    accountRequest "demo" =
      .ok ⟨"GET", ⟨"/api/v1/namespaces/demo/serviceaccounts/pipeline", []⟩, none, none⟩ := by
  have made : Target.make "/api/v1/namespaces/demo/serviceaccounts/pipeline" [] =
      some ⟨"/api/v1/namespaces/demo/serviceaccounts/pipeline", []⟩ := by
    decide +kernel
  exact ApiRequest.get_eq_ok.mpr ⟨by decide, _, made, rfl⟩

theorem registry_shows {status : Nat} {s t : Registry} {e : Exchange}
    (asked : (registry status).Asked s (namespaceRequest "demo") e t) :
    e.reply = s.shown status ∧ t = s := by
  obtain ⟨request, reply⟩ := e
  obtain ⟨made, sent⟩ := asked
  cases namespaceRequest_demo.symm.trans made
  have reads : ApiRequest.Reads ⟨"GET", ⟨"/api/v1/namespaces/demo", []⟩, none, none⟩ := rfl
  have answer : (registry status).send
      ⟨"GET", ⟨"/api/v1/namespaces/demo", []⟩, none, none⟩ s = (s.shown status, s) := by
    unfold registry
    dsimp only
    rw [if_pos reads, if_pos rfl]
  obtain ⟨told, same⟩ := Prod.mk.inj (answer.symm.trans sent)
  exact ⟨told.symm, same.symm⟩

theorem registry_stores {status : Nat} {s t : Registry} {request : Except CallError ApiRequest}
    {e : Exchange} {document : Json} (asked : (registry status).Asked s request e t)
    (changes : ¬ e.request.Reads) (body : e.request.body = some document) :
    e.reply = spelling document ∧ t = { s with held := some document } := by
  have sent : (registry status).send e.request s =
      (spelling document, { s with held := some document }) := by
    unfold registry
    dsimp only
    rw [if_neg changes, body]
  obtain ⟨told, same⟩ := Prod.mk.inj (sent.symm.trans asked.2)
  exact ⟨told.symm, same.symm⟩

theorem registry_keeps {status : Nat} (fails : Http.isErrorStatus status = true) :
    (registry status).Keeps "demo" (·.held) where
  reads request s reads := by
    unfold registry
    dsimp only
    rw [if_pos reads]
    split <;> rfl
  shows s e t text asked answered := by
    rw [(registry_shows asked).1, Registry.shown] at answered
    cases holds : s.held with
    | none =>
        obtain ⟨error, told, _⟩ := text_absence fails
        rw [holds] at answered
        cases told.symm.trans answered
    | some document =>
        rw [holds] at answered
        exact ⟨document, rfl, (parse?_of_spelling answered).2⟩
  misses s e t error asked answered _ := by
    rw [(registry_shows asked).1, Registry.shown] at answered
    cases holds : s.held with
    | none => rfl
    | some document =>
        rw [holds] at answered
        by_cases exact_ : Json.isExact 127 document = true
        · cases (text_spelling exact_).symm.trans answered
        · change (spelling document).text = _ at answered
          rw [spelling, if_neg exact_] at answered
          cases answered
  adds ns s _ e t text asked answered := by
    obtain ⟨_, _, made⟩ := ApiRequest.make_eq_ok.mp asked.1
    obtain ⟨told, rfl⟩ := registry_stores asked (ApiRequest.not_reads_create asked.1)
      (congrArg ApiRequest.body made)
    rw [told] at answered
    exact ⟨rfl, (parse?_of_spelling answered).2⟩
  replaces ns s e t text asked answered := by
    obtain ⟨_, _, _, made⟩ := ApiRequest.replace_eq_ok.mp asked.1
    obtain ⟨told, rfl⟩ := registry_stores asked (ApiRequest.not_reads_replace asked.1)
      (congrArg ApiRequest.body made)
    rw [told] at answered
    exact ⟨rfl, (parse?_of_spelling answered).2⟩
  draws _ := rfl
  sleeps _ _ := rfl

theorem registry_timely (status : Nat) : (registry status).journaled.Timely where
  toClocked := ⟨fun _ => Nat.le_refl _, fun _ _ => Nat.le_refl _⟩
  now_le_send request s := by
    show s.1.now ≤ ((registry status).send request s.1).2.now
    unfold registry
    dsimp only
    split
    · split <;> exact Nat.le_refl _
    · split <;> exact Nat.le_refl _

theorem registry_account (status : Nat) (s : Registry × List Exchange) : ∃ v,
    ((registry status).journaled.getOpt ServiceAccount "demo" pipelineAccount).run s =
      (.ok (some ⟨ObjectMeta.empty⟩), v) := by
  obtain ⟨e, t, asked⟩ := (registry status).exists_asked accountRequest_demo s.1
  refine ⟨(t, s.2 ++ [e]), Session.during_eq_ok.mpr ((World.lookUp_eq_some _).mpr ?_)⟩
  have shown : e.object ServiceAccount = .ok ⟨ObjectMeta.empty⟩ := by
    obtain ⟨request, reply⟩ := e
    obtain ⟨made, sent⟩ := asked
    cases accountRequest_demo.symm.trans made
    have reads : ApiRequest.Reads
        ⟨"GET", ⟨"/api/v1/namespaces/demo/serviceaccounts/pipeline", []⟩, none, none⟩ := rfl
    unfold registry at sent
    dsimp only at sent
    rw [if_pos reads, if_neg (by decide)] at sent
    cases sent
    exact object_spelling (by decide) rfl
  rw [← shown]
  exact asked.objectOf_run s.2

theorem registry_awaited (status : Nat) (s : Registry × List Exchange) :
    ∃ v, ((registry status).journaled.awaitPipelineAccount "demo").run s = (.ok (), v) := by
  have patient : 0 < patience := by decide
  exact World.exists_awaited (registry_timely status) patient
    (fun t => ⟨_, registry_account status t⟩) s

def grownDocument : Json := .obj [("metadata", .obj [
  ("name", "demo"), ("labels", .obj [("team", "blue")]),
  ("creationTimestamp", "2020-01-01T00:00:00.5Z")])]

def grownNamespace : Namespace where
  metadata := {
    creationTimestamp := some ⟨⟨2020, 1, 1⟩, 0, 0, 500000000⟩
    labels := some (Dictionary.ofList [("team", "blue")])
    name := some "demo" }

theorem read_grownDocument : Namespace.codec.read grownDocument = some grownNamespace := rfl

/-- The namespace once its label is set. -/
theorem reread_grownNamespace :
    Namespace.codec.read (Namespace.codec.write grownNamespace.managed) =
      some (Namespace.shape.trimmed grownNamespace.managed) := by
  have typed := Namespace.typed_managed
    (Namespace.normal.gives grownDocument grownNamespace read_grownDocument)
  refine Namespace.normal.restores _ typed fun t inside => ?_
  cases List.mem_singleton.mp inside
  simp [Timestamp.InEra]

theorem grown_arranged (status : Nat) : ∃ exchanges u,
    (registry status).Arranged "demo" ⟨0, some grownDocument⟩
      (.ok (Namespace.shape.trimmed grownNamespace.managed)) exchanges u := by
  obtain ⟨e, t, asked⟩ := (registry status).exists_asked namespaceRequest_demo
    ⟨0, some grownDocument⟩
  obtain ⟨f, u, sent⟩ := (registry status).exists_asked (namespaceRelabelling_demo grownNamespace) t
  have shown : e.object Namespace = .ok grownNamespace := by
    obtain ⟨request, reply⟩ := e
    obtain ⟨rfl, _⟩ := registry_shows asked
    exact object_spelling (by decide) read_grownDocument
  have told : f.object Namespace = .ok (Namespace.shape.trimmed grownNamespace.managed) := by
    have body : f.request.body = some (Namespace.codec.write grownNamespace.managed) := by
      rw [← Except.ok.inj ((namespaceRelabelling_demo grownNamespace).symm.trans sent.1)]
    obtain ⟨request, reply⟩ := f
    obtain ⟨rfl, _⟩ := registry_stores sent (ApiRequest.not_reads_replace sent.1) body
    exact object_spelling (by decide) reread_grownNamespace
  have arranged := World.Arranged.replaced asked shown (by decide) sent
  rw [told] at arranged
  exact ⟨_, u, arranged⟩

def hugeDocument : Json := .int 18446744073709551616

theorem huge_arranged (status : Nat) : ∃ e t,
    (registry status).Arranged "demo" ⟨0, some hugeDocument⟩
      (.error (.call (.getNamespace "demo") (.transport "unspeakable"))) [e] t := by
  obtain ⟨e, t, asked⟩ := (registry status).exists_asked namespaceRequest_demo
    ⟨0, some hugeDocument⟩
  have huge : ¬ Json.isExact 127 hugeDocument = true := by decide
  have unspoken : spelling hugeDocument = .broken "unspeakable" := if_neg huge
  have broken : e.reply = .broken "unspeakable" := (registry_shows asked).1.trans unspoken
  have fails : e.object Namespace = .error (.transport "unspeakable") := by
    rw [Exchange.object, broken]
    rfl
  exact ⟨e, t, .unread asked fails id⟩

/-- A namespace is read without its fraction of a second, is labelled, and stays.  The error of an
answer that breaks off is returned at once. -/
theorem grownNamespace_prepared :
    (∃ ns t journal, ((registry 404).journaled.createTestNamespace "demo").run
        (⟨0, some grownDocument⟩, []) = (.ok ns, (t, journal)) ∧
      World.Leaves "demo" (some grownDocument) t.held ns journal ∧
      ∃ e u, (registry 404).Revisit (·.held) "demo" ns t e u) ∧
    ∃ e t, ((registry 404).journaled.createTestNamespace "demo").run
      (⟨0, some hugeDocument⟩, []) =
        (.error (.call (.getNamespace "demo") (.transport "unspeakable")), (t, [e])) := by
  obtain ⟨exchanges, u, arranged⟩ := grown_arranged 404
  obtain ⟨_, awaited⟩ := registry_awaited 404 (u, exchanges)
  obtain ⟨⟨t, journal⟩, returned⟩ := arranged.exists_run awaited
  obtain ⟨e, v, broken⟩ := huge_arranged 404
  have prepares := (registry 404).createTestNamespace_prepares "demo"
  have keeps : (registry 404).Keeps "demo" (·.held) := registry_keeps (by decide)
  exact ⟨⟨_, t, journal, returned, prepares.leaves _ keeps _ _ _ _ returned,
    prepares.revisits _ keeps _ _ _ _ returned⟩, e, v, prepares.fails _ _ _ _ broken⟩

theorem registry_misses {status : Nat} (fails : Http.isErrorStatus status = true) {e : Exchange}
    {t : Registry} (asked : (registry status).Asked ⟨0, none⟩ (namespaceRequest "demo") e t) :
    ∃ cause, e.object Namespace = .error cause ∧ cause.SaysMissing := by
  obtain ⟨error, told, reason⟩ := text_absence fails
  refine ⟨.api error, ?_, reason⟩
  rw [Exchange.object, (registry_shows asked).1]
  exact congrArg (fun text => Except.bind text (parsed HasKind.codec)) told

theorem reread_template :
    Namespace.codec.read (Namespace.codec.write (Namespace.template "demo")) =
      some (Namespace.template "demo") :=
  Namespace.normal.restores _ (Namespace.typed_template _) nofun

theorem absent_arranged (status : Nat) (fails : Http.isErrorStatus status = true) :
    ∃ exchanges u, (registry status).Arranged "demo" ⟨0, none⟩ (.ok (Namespace.template "demo"))
      exchanges u := by
  obtain ⟨e, t, asked⟩ := (registry status).exists_asked namespaceRequest_demo ⟨0, none⟩
  obtain ⟨f, u, sent⟩ := (registry status).exists_asked namespaceAddition_demo t
  obtain ⟨cause, absent, missing⟩ := registry_misses fails asked
  have told : f.object Namespace = .ok (Namespace.template "demo") := by
    have body : f.request.body = some (Namespace.codec.write (Namespace.template "demo")) := by
      rw [← Except.ok.inj (namespaceAddition_demo.symm.trans sent.1)]
    obtain ⟨request, reply⟩ := f
    obtain ⟨rfl, _⟩ := registry_stores sent (ApiRequest.not_reads_create sent.1) body
    exact object_spelling (by decide) reread_template
  have arranged := World.Arranged.added asked absent missing sent
  rw [told] at arranged
  exact ⟨_, u, arranged⟩

/-- A fraction of a second is lost when a namespace is labelled, and whatever status says that there
is no namespace, one is added. -/
theorem not_preservesAll_nor_returnsOther :
    (registry 404).Keeps "demo" (·.held) ∧
      ¬ (registry 404).PreservesAll (·.held) "demo" ⟨0, some grownDocument⟩ ∧
      ¬ (registry 410).ReturnsOther "demo" ⟨0, none⟩ := by
  refine ⟨registry_keeps (by decide), fun preserves => ?_, fun returns => ?_⟩
  · obtain ⟨exchanges, u, arranged⟩ := grown_arranged 404
    obtain ⟨_, awaited⟩ := registry_awaited 404 (u, exchanges)
    obtain ⟨v, returned⟩ := arranged.exists_run awaited
    have same := preserves _ _ _ v rfl read_grownDocument returned
    have seconds := congrArg (·.metadata.creationTimestamp) same
    revert seconds
    decide
  · obtain ⟨exchanges, u, arranged⟩ := absent_arranged 410 (by decide)
    obtain ⟨_, awaited⟩ := registry_awaited 410 (u, exchanges)
    obtain ⟨v, returned⟩ := arranged.exists_run awaited
    obtain ⟨e, t, asked⟩ := (registry 410).exists_asked namespaceRequest_demo ⟨0, none⟩
    obtain ⟨cause, absent, _⟩ := registry_misses (by decide) asked
    have failed := returns e t 410 _ cause asked (registry_shows asked).1 (by decide) absent
    cases returned.symm.trans failed

end Rehearsal

end ClusterHarness
