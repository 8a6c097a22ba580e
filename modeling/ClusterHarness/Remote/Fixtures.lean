import ClusterHarness.Fixture.Kubectl
import ClusterHarness.Remote.Calls

/-!
# Steps with fixtures by name

A step with fixtures is named in JSON, and so is the guard that it makes or calls.
-/

namespace ClusterHarness

namespace Remote

variable {σ : Type}

/-- The guards that are kept, by their names. -/
abbrev Guards := List (String × Guard)

namespace Guards

def get? (guards : Guards) (id : String) : Option Guard :=
  (guards.find? (·.1 == id)).map (·.2)

def without (guards : Guards) (id : String) : Guards := guards.filter (·.1 != id)

def put (guards : Guards) (id : String) (guard : Guard) : Guards := (id, guard) :: guards.without id

end Guards

abbrev StepResult := Except FixtureError Json × Guards

def fixtureOf (kubectl : Kubectl) (bench : Bench σ) (step : Json) : Trial σ Fixture :=
  match step.get? "object" with
  | some object => kubectl.ofObject bench object (step.textAt? "in_namespace")
  | none => kubectl.ofText bench (step.textAt "text") (step.textAt? "in_namespace")

def namespaceOf (step : Json) : Namespace where
  metadata := {
    name := step.textAt? "name"
    labels := (step.get? "labels").map fun _ => Dictionary.ofList (step.pairsAt "labels") }

/-- Makes a fixture, puts it up if asked to, and keeps its guard in the place of an older one. -/
def keep (bench : Bench σ) (guards : Guards) (id : String) (raises : Bool) (shown : Json)
    (make : Trial σ Fixture) : StateM σ StepResult := do
  let trial : Trial σ Guard := do
    let fixture ← make
    if raises then Guard.raise fixture bench else return .ofFixture fixture
  match ← trial.run with
  | .error e => return (.error e, guards)
  | .ok guard =>
    if let some old := guards.get? id then old.close bench
    return (.ok shown, guards.put id guard)

def callGuard (bench : Bench σ) (guards : Guards) (id : String) (call : GuardCall) :
    StateM σ StepResult :=
  match guards.get? id with
  | none => return (.ok .null, guards)
  | some guard => do
    let (result, guard) ← guard.handle bench call
    return (result.map fun _ => .bool true, guards.put id guard)

def goalOf (step : Json) : Kubectl.Goal :=
  match step.textAt? "condition", step.textAt? "jsonpath" with
  | some name, _ => .condition name
  | none, some expression => .jsonPath expression
  | none, none => .deletion

def fixtureStep (kubectl : Kubectl) (bench : Bench σ) (guards : Guards) (step : Json) :
    StateM σ StepResult :=
  let s := step.textAt
  let id := s "id"
  let plain {α : Type} (f : α → Json) (trial : Trial σ α) : StateM σ StepResult := do
    return ((← trial.run).map f, guards)
  let isTrue : Unit → Json := fun _ => .bool true
  let keepNamespace (raises : Bool) :=
    keep bench guards id raises (.str (s "name")) (kubectl.ofNamespace bench (namespaceOf step))
  let keepManifest (raises : Bool) :=
    keep bench guards id raises (.bool true) (fixtureOf kubectl bench step)
  match s "do" with
  | "namespace" => keepNamespace true
  | "namespace_manager" => keepNamespace false
  | "manifest" => keepManifest true
  | "manifest_manager" => keepManifest false
  | "up" => callGuard bench guards id .up
  | "down" => callGuard bench guards id .down
  | "down_blocking" => callGuard bench guards id .downBlocking
  | "leak" => callGuard bench guards id .leak
  | "drop" => do
    if let some guard := guards.get? id then guard.close bench
    return (.ok (.bool true), guards.without id)
  | "describe" =>
    return (.ok (Json.ofOption Json.str ((guards.get? id).map (·.fixture.description))), guards)
  | "logs" => plain Json.str (kubectl.logs bench (s "namespace") (s "resource"))
  | "wait" => plain isTrue (kubectl.wait bench (s "namespace") (step.textsAt "resources")
      (goalOf step) (step.textsAt "extra"))
  | "rollout" => plain isTrue (kubectl.rollout bench (s "namespace") (s "resource")
      ((step.durationAt? "timeout").getD 0))
  | _ => return (.ok (.bool true), guards)

/-- Ends all guards, in the order of their names. -/
def closeAll (bench : Bench σ) (guards : Guards) : StateM σ Unit :=
  (guards.mergeSort fun a b => a.1 ≤ b.1).forM fun guard => guard.2.close bench

end Remote

end ClusterHarness
