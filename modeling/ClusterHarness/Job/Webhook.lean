import ClusterHarness.Digest.Sha256
import ClusterHarness.Job.Pairing
import ClusterHarness.Json.Printer

/-!
# Webhooks

A run is reported by a signed webhook: periodic jobs report on the infrastructure, pull requests
only on the suites and the infrastructure.
-/

namespace ClusterHarness

structure Webhook where
  /-- The program that reports. -/
  path : String
  fullName : String
  pullNumber : String
  repositoryUrl : String
  deriving DecidableEq, Repr

namespace Webhook

/-- Whether a job reports, and if not, what is to be said. -/
def forJob (job : JobContext) (path : String) : Except Notice Webhook :=
  if Text.hasPart "hacbs-e2e-periodic" job.jobName then
    .error (.info "Not sending a webhook for the HACBS periodic job")
  else if job.isPeriodic then
    .ok ⟨path, upstreamOrg ++ "/" ++ infraRepo, "periodic",
      "https://github.com/" ++ upstreamOrg ++ "/" ++ infraRepo⟩
  else if job.repoName = testsRepo ∨ job.repoName = infraRepo then
    .ok ⟨path, job.repoOwner ++ "/" ++ job.repoName, job.pullNumber,
      (job.refs.map (·.repoLink)).getD ""⟩
  else
    .error (.info ("Sending a webhook for job type " ++ job.jobType ++ ", job " ++ job.jobName
      ++ " is not supported"))

def json (webhook : Webhook) : Json := .obj [
  ("path", .str webhook.path),
  ("repository", .obj [
    ("full_name", .str webhook.fullName), ("pull_number", .str webhook.pullNumber)]),
  ("repository_url", .str webhook.repositoryUrl)]

def body (webhook : Webhook) : List UInt8 := Utf8.encode (Json.compact webhook.json)

def signature (salt : String) (body : List UInt8) : String :=
  "sha256=" ++ Digest.hex (Sha256.keyed (Utf8.encode salt) body)

def send {σ : Type} (webhook : Webhook) (web : Web σ) (salt target : String) :
    Errand σ String := do
  let request := Http.Request.make? "POST" target []
    [("content-type", "application/json"), ("x-hub-signature-256", signature salt webhook.body),
      ("accept", "*/*")] webhook.body
  match ← ExceptT.lift (web.exchange request) with
  | none => throw ((Failure.malformed .http).within ("Could not send the webhook to " ++ target))
  | some (status, body) =>
    let text := Http.bodyText body
    if Http.isSuccessStatus status then return text
    else
      Errand.fail ("Webhook receiver answered " ++ Http.statusLine status ++ ": " ++ text)

end Webhook

structure WebhookSettings where
  salt : String
  target : String
  deriving DecidableEq, Repr

namespace WebhookSettings

def defaultSalt : String := "123456789"

def defaultTarget : String := "https://smee.io/JgVqn2oYFPY1CF"

def report {σ : Type} (settings : WebhookSettings) (host : Host σ) (job : JobContext) :
    Errand σ Unit := do
  let path ← (Errand.ofExcept (host.executable.mapError Failure.ofText)).within
    "Could not resolve the adev executable"
  match Webhook.forJob job path with
  | .error notice => host.tell notice
  | .ok webhook =>
    let response ← webhook.send host.toWeb settings.salt settings.target
    host.tell (.info ("Webhook response: " ++ response))

end WebhookSettings

end ClusterHarness
