import ClusterHarness.Platform.Pods
import ClusterHarness.Proofs.Cluster.Journaled
import ClusterHarness.Proofs.Courses

/-!
# What inquiries come to

An inquiry is one request, unless the request cannot be made at all, and what it comes to is told by
the answer alone.  Objects are looked up and the logs of containers are read in this way.
-/

namespace ClusterHarness

variable {σ α : Type}

/-- Something is asked, if it can be, and the answer tells what that comes to. -/
inductive Inquired (request : Except CallError ApiRequest)
    (tell : Except CallError String → Except Error α) : Except Error α → List Exchange → Prop where
  | unasked {cause : CallError} (invalid : request = .error cause) :
      Inquired request tell (tell (.error cause)) []
  | asked {e : Exchange} (made : request = .ok e.request) :
      Inquired request tell (tell e.reply.text) [e]

theorem Inquired.request {request : Except CallError ApiRequest}
    {tell : Except CallError String → Except Error α} {result : Except Error α}
    {exchanges : List Exchange} (inquired : Inquired request tell result exchanges) :
    ∀ e ∈ exchanges, request = .ok e.request := by
  cases inquired with
  | unasked => nofun
  | asked made => exact List.forall_mem_singleton.mpr made

theorem World.yields_inquiry (w : World σ) {request : Except CallError ApiRequest}
    {tell : Except CallError String → Except Error α} {inquiry : Session (σ × List Exchange) α}
    (told : ∀ s, inquiry.run s =
      (tell ((w.journaled.textOf request).run s).1, ((w.journaled.textOf request).run s).2)) :
    Yields inquiry (Inquired request tell) := by
  intro s before
  rw [told]
  cases request with
  | error cause => exact ⟨_, s, [], by rw [List.append_nil]; rfl, .unasked rfl⟩
  | ok request =>
      rw [textOf_run]
      exact ⟨_, _, _, rfl, .asked (e := ⟨request, (w.send request s).1⟩) rfl⟩

/-! ## Objects -/

section

variable [HasKind α]

def sought (ns name : String) : Except CallError α → Except Error α
  | .ok object => .ok object
  | .error (.api error) =>
      if error.reason = "NotFound" then .error (.notFound (World.kindOf α).name name ns)
      else .error (.call (.get (World.kindOf α).name ns name) (.api error))
  | .error cause => .error (.call (.get (World.kindOf α).name ns name) cause)

def LookedUp (ns name : String) : Except Error α → List Exchange → Prop :=
  Inquired (ApiRequest.get (.namespaced ns) (World.kindOf α) name) fun answer =>
    sought ns name (answer.bind (parsed HasKind.codec))

theorem sought_eq_ok {ns name : String} {answer : Except CallError α} {object : α} :
    sought ns name answer = .ok object ↔ answer = .ok object := by
  constructor
  · intro found
    unfold sought at found
    split at found
    · cases found
      rfl
    · split at found <;> cases found
    · cases found
  · rintro rfl
    rfl

/-- An object that was looked up and found was shown by the only answer. -/
theorem LookedUp.shows {ns name : String} {object : α} {exchanges : List Exchange}
    (found : LookedUp ns name (.ok object) exchanges) :
    ∃ e : Exchange, e.Shows (ApiRequest.get (.namespaced ns) (World.kindOf α) name) object ∧
      exchanges = [e] := by
  generalize told : (Except.ok object : Except Error α) = result at found
  cases found with
  | unasked => cases sought_eq_ok.mp told.symm
  | @asked e made => exact ⟨e, ⟨made, sought_eq_ok.mp told.symm⟩, rfl⟩

namespace World

variable (w : World σ) (ns name : String)

theorem get_run (s : σ) :
    (w.get α ns name).run s =
      (sought ns name (((w.textOf (ApiRequest.get (.namespaced ns) (kindOf α) name)).run s).1.bind
          (parsed HasKind.codec)),
        ((w.textOf (ApiRequest.get (.namespaced ns) (kindOf α) name)).run s).2) := by
  unfold get getOpt Session.during lookUp
  rw [exceptT_run_bind, ExceptT.run_mk, stateM_bind_apply, ExceptT.run_mk, stateM_bind_apply,
    objectOf_run_textOf]
  cases ((w.textOf _).run s).1.bind (parsed (HasKind.codec (α := α))) with
  | ok object => rfl
  | error cause =>
      cases cause with
      | api error =>
          by_cases missing : error.reason = "NotFound"
          · simp only [sought, if_pos missing]
            rfl
          · simp only [sought, if_neg missing]
            rfl
      | _ => rfl

/-- An object that is shown on request is found. -/
theorem get_run_of_shows {request : ApiRequest} {s : σ} {object : α}
    (shows : Exchange.Shows ⟨request, (w.send request s).1⟩
      (ApiRequest.get (.namespaced ns) (kindOf α) name) object) :
    (w.get α ns name).run s = (.ok object, (w.send request s).2) := by
  obtain ⟨made, shown⟩ := shows
  rw [get_run, made, textOf_run, shown]
  rfl

theorem yields_get : Yields (w.journaled.get α ns name) (LookedUp ns name) :=
  w.yields_inquiry (w.journaled.get_run ns name)

end World

end

/-! ## Logs -/

def ApiRequest.logs (ns pod container : String) : Except CallError ApiRequest := do
  let path ← Scope.pathOf (.namespaced ns) Pod.kind pod
  make "GET" (path ++ "/log") [("container", container)] none none

end ClusterHarness
