import ClusterHarness.Error
import ClusterHarness.SuiteFilter

/-!
# Settings of a test run

All settings come from the environment; a blank value counts as missing.  Both timeouts are longer
than zero.
-/

namespace ClusterHarness

abbrev Environment := List (String × String)

def Environment.get? (env : Environment) (name : String) : Option String :=
  (env.find? (·.1 == name)).map (·.2)

/-- The value of a variable that is not blank. -/
def Environment.nonBlank? (env : Environment) (name : String) : Option String :=
  (env.get? name).filter fun value => ¬(Text.trim value.toList).isEmpty

structure Settings where
  githubToken : Option String
  githubOrg : String
  quayOrg : String
  namespacePrefix : String
  suites : SuiteFilter
  /-- For resources that settle quickly. -/
  defaultTimeout : Nat
  /-- For pipeline runs. -/
  pipelineTimeout : Nat

namespace Settings

/-- Why the settings could not be read: a variable was refused, or its value is a duration whose
sum does not fit. -/
inductive Fault where
  | refused (error : Error)
  | overflow (message : String)
  deriving DecidableEq, Repr

def defaultOrg : String := "redhat-appstudio-qe"

def duration (env : Environment) (name : String) (default_ : Nat) : Except Fault Nat :=
  match env.nonBlank? name with
  | none => .ok default_
  | some value =>
    match Duration.read (Text.trim value.toList) with
    | .ok 0 => .error (.refused (.invalidConfig name "must be longer than zero"))
    | .ok d => .ok d
    | .error .tooLong => .error (.overflow Duration.ReadError.tooLong.message)
    | .error cause => .error (.refused (.invalidConfig name cause.message))

def ofEnvironment (env : Environment) : Except Fault Settings := do
  let defaultTimeout ← duration env "E2E_DEFAULT_TIMEOUT" (Duration.ofSecs 120)
  let pipelineTimeout ← duration env "E2E_PIPELINE_TIMEOUT" (Duration.ofSecs 600)
  return {
    githubToken := env.nonBlank? "GITHUB_TOKEN"
    githubOrg := (env.nonBlank? "MY_GITHUB_ORG").getD defaultOrg
    quayOrg := (env.nonBlank? "QUAY_E2E_ORGANIZATION").getD defaultOrg
    namespacePrefix := (env.nonBlank? "E2E_NAMESPACE_PREFIX").getD "e2e"
    suites := SuiteFilter.parse ((env.nonBlank? "E2E_TEST_SUITE_LABEL").getD "").toList
    defaultTimeout
    pipelineTimeout }

/-- The token, which some suites cannot do without. -/
def requireToken (settings : Settings) : Except Error String :=
  match settings.githubToken with
  | some token => .ok token
  | none => .error (.invalidConfig "GITHUB_TOKEN" "not set")

/-- A namespace name for a suite; the token makes it unique. -/
def namespaceName (settings : Settings) (suite token : String) : String :=
  settings.namespacePrefix ++ "-" ++ suite ++ "-" ++ token

end Settings

end ClusterHarness
