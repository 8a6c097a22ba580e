import ClusterHarness.Fixture.Guard
import ClusterHarness.Json.Printer
import ClusterHarness.Resource.Core
import ClusterHarness.Text.Lowercase

/-!
# Fixtures by kubectl

Namespaces and manifests as fixtures, and what else tests ask of the cluster's command: logs, and
waiting for resources and rollouts.
-/

namespace ClusterHarness

/-- The command that talks to the cluster. -/
structure Kubectl where
  program : String
  deriving DecidableEq, Repr

namespace Kubectl

def variableName : String := "APPSTUDIO_E2E_KUBECTL"

/-- The command that the environment names, which must not be blank, or the usual one. -/
def ofEnvironment (env : Environment) : Except FixtureError Kubectl :=
  match env.get? variableName with
  | none => .ok ⟨"kubectl"⟩
  | some value =>
    if (Text.trim value.toList).isEmpty then
      .error (.invalidVariable variableName "must not be empty")
    else .ok ⟨value⟩

def run (kubectl : Kubectl) (arguments : List String) : Command :=
  .ofProgram kubectl.program arguments

variable {σ : Type}

/-! ## Fixtures -/

/-- A namespace, which is deleted without waiting for its end. -/
def namespaceFixture (kubectl : Kubectl) (name file : String) : Fixture where
  description := "namespace/" ++ name
  up := kubectl.run ["apply", "-f", file]
  down := kubectl.run ["delete", "--ignore-not-found", "--wait=false", "-f", file]
  file := file

/-- Resources of a file, put into a namespace if one is given. -/
def manifestFixture (kubectl : Kubectl) (description : String) (ns : Option String)
    (file : String) : Fixture where
  description := description ++ (ns.map (" in " ++ ·)).getD ""
  up := kubectl.run ((ns.map (["-n", ·])).getD [] ++ ["apply", "-f", file])
  down := kubectl.run ((ns.map (["-n", ·])).getD [] ++ ["delete", "--ignore-not-found", "-f", file])
  file := file

/-- The kind and the name of an object, as far as it has them. -/
def describe (object : Json) : String :=
  let name? := (object.get? "metadata").bind (·.textAt? "name")
  match object.textAt? "kind", name? with
  | some kind, some name => lowercase kind ++ "/" ++ name
  | some kind, none => lowercase kind
  | none, _ => "manifest"

def ofNamespace (kubectl : Kubectl) (bench : Bench σ) (ns : Namespace) : Trial σ Fixture := do
  let file ← bench.fileOf (Json.compact (Namespace.codec.write ns))
  return kubectl.namespaceFixture (ns.metadata.name.getD "") file

def ofText (kubectl : Kubectl) (bench : Bench σ) (text : String) (ns : Option String) :
    Trial σ Fixture := do
  return kubectl.manifestFixture "manifest" ns (← bench.fileOf text)

def ofObject (kubectl : Kubectl) (bench : Bench σ) (object : Json) (ns : Option String) :
    Trial σ Fixture := do
  return kubectl.manifestFixture (describe object) ns (← bench.fileOf (Json.compact object))

/-! ## Logs and waiting -/

def logs (kubectl : Kubectl) (bench : Bench σ) (ns resource : String) : Trial σ String :=
  bench.outputOf (kubectl.run ["logs", "-n", ns, resource, "--all-containers", "--prefix"])

inductive Goal where
  | deletion
  | condition (name : String)
  | jsonPath (expression : String)
  deriving DecidableEq, Repr

def Goal.argument : Goal → String
  | .deletion => "--for=delete"
  | .condition name => "--for=condition=" ++ name
  | .jsonPath expression => "--for=jsonpath=" ++ expression

def wait (kubectl : Kubectl) (bench : Bench σ) (ns : String) (resources : List String)
    (goal : Goal) (extra : List String) : Trial σ Unit :=
  bench.perform (kubectl.run
    ("wait" :: resources ++ goal.argument :: extra ++ ["-n", ns]))

/-- How long a rollout is waited for, in whole seconds; zero is for ever. -/
def timeoutArgument (timeout : Nat) : String :=
  "--timeout=" ++ Nat.repr (Duration.secs timeout) ++ "s"

def rollout (kubectl : Kubectl) (bench : Bench σ) (ns resource : String) (timeout : Nat) :
    Trial σ Unit :=
  bench.perform (kubectl.run ["rollout", "status", "-n", ns, resource, timeoutArgument timeout])

end Kubectl

end ClusterHarness
