import ClusterHarness.Bundle.Edit
import ClusterHarness.Bundle.Selector
import ClusterHarness.Host.Run
import ClusterHarness.Text.Base64

/-!
# Patching the build bundles

To test a change of the build service, its pipeline and one of the pipeline's tasks are pulled, the
task's step gets the image under test, the pipeline is pointed at the new task, and both are pushed
under tags of the commit, the task first.
-/

namespace ClusterHarness

structure BundlePatch where
  sha : String
  image : String
  pushRepo : String
  deriving DecidableEq, Repr

namespace BundlePatch

def selectorName : String := "Java"

def pipelineName : String := "java-builder"

def taskName : String := "s2i-java"

def stepName : String := "analyse-dependencies-java-sbom"

def taskBundle (patch : BundlePatch) : String := patch.pushRepo ++ ":task-bundle-" ++ patch.sha

def pipelineBundle (patch : BundlePatch) : String :=
  patch.pushRepo ++ ":pipeline-bundle-" ++ patch.sha

variable {σ : Type}

def pull (host : Host σ) (bundle kind name : String) : Errand σ Yaml := do
  let text ← host.outputOf
    (Command.ofProgram "tkn" ["bundle", "list", bundle, kind, name, "-o", "yaml"])
  match Yaml.ofText? text with
  | some object => return object
  | none =>
    throw ((Failure.malformed .yaml).within ("Invalid " ++ kind ++ " " ++ name ++ " in " ++ bundle))

def push (host : Host σ) (bundle : String) (object : Yaml) : Errand σ Unit := do
  let directory ← host.temporary
  let file := joinPath directory "object.yaml"
  let some text := host.yamlText object | throw (Failure.malformed .yaml)
  Host.onFiles (host.writeFile file (Utf8.encode text))
  host.await (Command.ofProgram "tkn" ["bundle", "push", bundle, "-f", file])

def ofEdit {α : Type} (result : Except EditError α) : Errand σ α :=
  Errand.ofExcept (result.mapError fun e => Failure.ofText e.message)

/-- Patches and pushes both bundles; the result is the pipeline's. -/
def run (patch : BundlePatch) (host : Host σ) (selector : String) : Errand σ String := do
  let bundle ← Errand.ofExcept (Selector.bundleOf selector selectorName)
  host.tell (.info ("Patching " ++ pipelineName ++ " from " ++ bundle))
  let (previous, pipeline) := Bundle.retargetTask taskName patch.taskBundle
    (← pull host bundle "pipeline" pipelineName)
  let previous ← ofEdit previous
  let (replaced, task) := Bundle.replaceStepImage stepName patch.image
    (← pull host previous "task" taskName)
  ofEdit replaced
  push host patch.taskBundle task
  push host patch.pipelineBundle pipeline
  host.tell (.success ("Pushed " ++ patch.pipelineBundle))
  return patch.pipelineBundle

end BundlePatch

structure PatchSettings where
  image : String
  token : String
  pushRepo : String
  selectorUrl : String
  deriving DecidableEq, Repr

namespace PatchSettings

def defaultPushRepo : String := "quay.io/redhat-appstudio-qe/test-images"

def defaultSelectorUrl : String :=
  "https://raw.githubusercontent.com/redhat-appstudio/infra-deployments/main/components/build-service/base/build-pipeline-selector.yaml"

variable {σ : Type}

/-- Writes the registry's credentials, which the token encodes, below a home directory. -/
def writeCredentials (host : Host σ) (token home : String) : Errand σ Unit := do
  match Base64.decode (Text.trim token.toList) with
  | none => throw ((Failure.malformed .base64).within "QUAY_TOKEN is not valid base64")
  | some config =>
    let directory := joinPath home ".docker"
    (Host.onFiles (host.makeDirectories directory)).within ("Could not create " ++ directory)
    (Host.onFiles (host.writeFile (joinPath directory "config.json") config)).within
      "Could not write the docker config"

def fetchSelector (web : Web σ) (url : String) : Errand σ String := do
  match ← ExceptT.lift (web.exchange (Http.Request.make? "GET" url [] [("accept", "*/*")] [])) with
  | none => throw ((Failure.malformed .http).within ("Could not fetch " ++ url))
  | some (status, body) =>
    if Http.isErrorStatus status then throw (Failure.malformed .http)
    else return Http.bodyText body

/-- Patches the bundles for a commit; the result is the pipeline's bundle. -/
def run (settings : PatchSettings) (host : Host σ) (sha : String) : Errand σ String := do
  if settings.image.isEmpty then
    Errand.fail "JVM_BUILD_SERVICE_REQPROCESSOR_IMAGE is required to patch the Java bundles"
  else if settings.token.isEmpty then
    Errand.fail "QUAY_TOKEN is required to push the Java bundles"
  else
    let some home := host.environment.get? "HOME" | Errand.fail "HOME is not set"
    writeCredentials host settings.token home
    let selector ← fetchSelector host.toWeb settings.selectorUrl
    BundlePatch.run ⟨sha, settings.image, settings.pushRepo⟩ host selector

end PatchSettings

end ClusterHarness
