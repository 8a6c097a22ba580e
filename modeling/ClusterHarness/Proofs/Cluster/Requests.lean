import ClusterHarness.Cluster.Client

/-!
# Requests that can be made

A request of an object needs a name and a path that can be sent.  Requests that only read are told
from those that change something by their method.
-/

namespace ClusterHarness

def CallError.SaysMissing : CallError → Prop
  | .api error => error.reason = "NotFound"
  | _ => False

/-- A path of characters that may stand in a target is not changed. -/
theorem Target.make_of_pathChar {path : String} (plain : path.toList.all pathChar = true)
    (query : List (String × String)) : make path query = some ⟨path, query⟩ :=
  if_pos plain

namespace ApiRequest

def Reads (request : ApiRequest) : Prop := request.method = "GET"

instance (request : ApiRequest) : Decidable request.Reads :=
  inferInstanceAs (Decidable (request.method = "GET"))

variable {scope : Scope} {kind : Kind} {name : String} {body : Json} {request : ApiRequest}

theorem make_eq_ok {method path : String} {query : List (String × String)}
    {contentType : Option String} {body : Option Json} :
    make method path query contentType body = .ok request ↔
      ∃ target, Target.make path query = some target ∧
        request = ⟨method, target, contentType, body⟩ := by
  unfold make
  cases Target.make path query with
  | none => exact ⟨nofun, nofun⟩
  | some target => simp [eq_comm]

theorem make_eq_error {method path : String} {query : List (String × String)}
    {contentType : Option String} {body : Option Json} {cause : CallError} :
    make method path query contentType body = .error cause ↔
      Target.make path query = none ∧ cause = .invalidPath := by
  unfold make
  cases Target.make path query with
  | none => simp [eq_comm]
  | some target => exact ⟨nofun, nofun⟩

theorem get_eq_ok :
    get scope kind name = .ok request ↔
      name ≠ "" ∧ ∃ target, Target.make (scope.path kind ++ "/" ++ name) [] = some target ∧
        request = ⟨"GET", target, none, none⟩ := by
  rw [← make_eq_ok, get, Scope.pathOf]
  by_cases unnamed : name = "" <;> simp [unnamed, bind, Except.bind]

theorem replace_eq_ok :
    replace scope kind name body = .ok request ↔
      name ≠ "" ∧ ∃ target, Target.make (scope.path kind ++ "/" ++ name) [] = some target ∧
        request = ⟨"PUT", target, jsonType, some body⟩ := by
  rw [← make_eq_ok, replace, Scope.pathOf]
  by_cases unnamed : name = "" <;> simp [unnamed, bind, Except.bind]

theorem patchStatus_eq_ok {patch : Json} :
    patchStatus scope kind name patch = .ok request ↔
      name ≠ "" ∧ ∃ target, Target.make (scope.path kind ++ "/" ++ name ++ "/status") [] =
        some target ∧ request = ⟨"PATCH", target, mergeType, some patch⟩ := by
  rw [← make_eq_ok, patchStatus, Scope.pathOf]
  by_cases unnamed : name = "" <;> simp [unnamed, bind, Except.bind]

theorem reads_get (made : get scope kind name = .ok request) : request.Reads := by
  obtain ⟨_, _, _, rfl⟩ := get_eq_ok.mp made
  rfl

/-- A request that cannot be made is no answer of the server. -/
theorem not_saysMissing_of_get {cause : CallError}
    (invalid : get scope kind name = .error cause) : ¬ cause.SaysMissing := by
  unfold get Scope.pathOf at invalid
  by_cases unnamed : name = ""
  · rw [if_pos unnamed] at invalid
    cases invalid
    exact id
  · rw [if_neg unnamed] at invalid
    change make "GET" (scope.path kind ++ "/" ++ name) [] none none = _ at invalid
    unfold make at invalid
    split at invalid <;> cases invalid
    exact id

theorem not_reads_create (made : create scope kind body = .ok request) : ¬ request.Reads := by
  obtain ⟨_, _, rfl⟩ := make_eq_ok.mp made
  exact show ¬"POST" = "GET" by decide

theorem not_reads_replace (made : replace scope kind name body = .ok request) :
    ¬ request.Reads := by
  obtain ⟨_, _, _, rfl⟩ := replace_eq_ok.mp made
  exact show ¬"PUT" = "GET" by decide

end ApiRequest

end ClusterHarness
