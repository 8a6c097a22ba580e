import ClusterHarness.Text.Blank

/-!
# Labels and selectors

A selector asks for labels by pairs of key and value, joined by commas.
-/

namespace ClusterHarness

namespace Label

def buildPipelineRun : String := "appstudio.openshift.io/build-pipelinerun"
def component : String := "appstudio.openshift.io/component"
def application : String := "appstudio.openshift.io/application"
def snapshot : String := "appstudio.openshift.io/snapshot"
def pipelineType : String := "pipelines.appstudio.openshift.io/type"
def testScenario : String := "test.appstudio.openshift.io/scenario"
def testType : String := "test.appstudio.openshift.io/type"
def testOptional : String := "test.appstudio.openshift.io/optional"
def testEventType : String := "pac.test.appstudio.openshift.io/event-type"
def eventType : String := "pipelinesascode.tekton.dev/event-type"
def sha : String := "pipelinesascode.tekton.dev/sha"
def buildComponent : String := "build.appstudio.openshift.io/component"
def buildApplication : String := "build.appstudio.openshift.io/application"
def releaseName : String := "release.appstudio.openshift.io/name"
def releaseNamespace : String := "release.appstudio.openshift.io/namespace"
def autoRelease : String := "release.appstudio.openshift.io/auto-release"
def attribution : String := "release.appstudio.openshift.io/attribution"
def managedBy : String := "argocd.argoproj.io/managed-by"
def emailHash : String := "toolchain.dev.openshift.com/email-hash"
def userEmail : String := "toolchain.dev.openshift.com/user-email"

def selectorChars (pairs : List (List Char × List Char)) : List Char :=
  Text.join ',' (pairs.map fun p => p.1 ++ '=' :: p.2)

def selector (pairs : List (String × String)) : String :=
  String.ofList (selectorChars (pairs.map fun p => (p.1.toList, p.2.toList)))

/-- The pairs of a selector: the pieces between commas, each cut at its first equals sign. -/
def requirements (selector : List Char) : Option (List (List Char × List Char)) :=
  (Text.split ',' selector).mapM (Text.cut '=')

end Label

end ClusterHarness
