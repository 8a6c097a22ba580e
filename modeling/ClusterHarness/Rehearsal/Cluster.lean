import ClusterHarness.Cluster.Session
import ClusterHarness.Json.Printer

/-!
# Rehearsals

A rehearsal plays scripted answers on a clock of its own and records what was asked.  An item of a
script is played once, the last one over and over.
-/

namespace ClusterHarness

namespace Rehearsal

def turn? {α : Type} (script : List α) (n : Nat) : Option α := (script[n]?).or script.getLast?

/-- A scripted reply.  An echo has the body of the request; a fault breaks the transport, and a
closed connection brings no answer at all. -/
structure Reply where
  status : Nat
  body : List UInt8
  echo : Bool
  delay : Option Nat
  fault : Option String
  closed : Bool

/-- What the server says when its script is empty. -/
def Reply.missing (body : List UInt8) : Reply := ⟨404, body, false, none, none, false⟩

def Reply.answerTo (reply : Reply) (body : List UInt8) : List UInt8 :=
  if reply.echo then body else reply.body

/-- Enough for everything that ends. -/
def patience : Nat := 1000000000000

/-- The draw in the middle of the unit interval. -/
def middle : Binary64 := Binary64.ofRatio false 1 2

def numbers (turn : Nat) : Nat → Nat := fun n => n * 7919 + turn * 101 + 13

/-- A clock and what a scripted server was asked, latest first. -/
structure ClusterState where
  now : Nat
  sent : List (ApiRequest × Nat)

def bodyOf (request : ApiRequest) : List UInt8 :=
  (request.body.map fun body => Utf8.encode (Json.compact body)).getD []

def clocked {σ : Type} (now : σ → Nat) (moved : Nat → σ → σ) : Polling.Clocked σ where
  clock := .millisecond
  now
  sleepUntil := moved
  draw s := (middle, s)
  patience

def cluster (script : List Reply) (missing : Reply) (today : Timestamp) : World ClusterState where
  toClocked := clocked (·.now) fun now s => { s with now }
  today _ := today
  random s := (numbers (s.sent.length + s.now), s)
  send request s :=
    let reply := (turn? script s.sent.length).getD missing
    let now := match reply.delay with
      | some d => Polling.Clock.millisecond.wakes s.now d
      | none => s.now
    let s := { now, sent := (request, s.now) :: s.sent }
    match reply.fault with
    | some text => (.broken text, s)
    | none => (.answer reply.status (reply.answerTo (bodyOf request)), s)

end Rehearsal

end ClusterHarness
