import ClusterHarness.Http.Target
import ClusterHarness.Json.Parser
import ClusterHarness.Polling.Wait
import ClusterHarness.Resource.Basic
import ClusterHarness.Session

/-!
# Sessions with the API server

A session runs in a world that answers requests, keeps the time and draws random numbers.  Every
function of a session maps a world's state to a result and the next state, so a statement about
all worlds is one about every sequence of answers and delays.
-/

namespace ClusterHarness

structure ApiRequest where
  method : String
  target : Target
  contentType : Option String
  body : Option Json

/-- What came back: a status with a body, or the failure of the transport. -/
inductive ApiReply where
  | answer (status : Nat) (body : List UInt8)
  | broken (text : String)

structure World (σ : Type) extends Polling.Clocked σ where
  send : ApiRequest → σ → ApiReply × σ
  /-- The date and time. -/
  today : σ → Timestamp
  /-- A source of random numbers for one token. -/
  random : σ → (Nat → Nat) × σ

abbrev Call (σ α : Type) := ExceptT CallError (StateM σ) α

variable {σ α : Type}

namespace Session

/-- A call made for some purpose, which its error names. -/
def during (action : Action) (call : Call σ α) : Session σ α :=
  ExceptT.mk do return (← call.run).mapError (Error.call action)

end Session

namespace World

def exchange (w : World σ) (request : ApiRequest) : Call σ (Nat × List UInt8) :=
  ExceptT.mk fun s =>
    let (reply, s) := w.send request s
    match reply with
    | .answer status body => (.ok (status, body), s)
    | .broken text => (.error (.transport text), s)

def timeNow (w : World σ) : StateM σ Timestamp := fun s => (w.today s, s)

def tokenSource (w : World σ) : StateM σ (Nat → Nat) := fun s => w.random s

end World

def ApiError.codec : Codec ApiError := Codec.record <|
  Parts.make (fun status message reason code => ⟨status, message, reason, code⟩)
  |>.and (Parts.required "status" Codec.text (·.status))
  |>.and (Parts.defaulted "message" Codec.text "" (·.message))
  |>.and (Parts.defaulted "reason" Codec.text "" (·.reason))
  |>.and (Parts.required "code" ⟨fun j => ((Codec.integer 0 65535).read j).map Int.toNat,
    fun n => .int n⟩ (·.code))

def ApiError.ofBody (status : Nat) (body : String) : ApiError :=
  match (Json.parse? body).bind ApiError.codec.read with
  | some error => error
  | none =>
    { status := Http.statusLine status
      message := Quoted.encode body
      reason := "Failed to parse error data"
      code := status }

/-- The text of an answer, or the error it reports. -/
def Http.accept (status : Nat) (body : List UInt8) : Except CallError String :=
  match Utf8.decode body with
  | .error fault => .error (.notUtf8 fault)
  | .ok text =>
    if Http.isErrorStatus status then .error (.api (ApiError.ofBody status text)) else .ok text

def World.textOf (w : World σ) (request : Except CallError ApiRequest) : Call σ String := do
  let request ← ExceptT.mk (pure request)
  let (status, body) ← w.exchange request
  ExceptT.mk (pure (Http.accept status body))

def parsed (codec : Codec α) (text : String) : Except CallError α :=
  match (Json.parse? text).bind codec.read with
  | some value => .ok value
  | none => .error .undecodable

end ClusterHarness
