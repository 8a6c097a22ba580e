import ClusterHarness.Numeric.Binary64

/-!
# Lengths of time

A duration is a natural number of nanoseconds, at most `Duration.max`; an instant is the duration
since the clock started.
-/

namespace ClusterHarness

namespace Duration

def nanosPerSecond : Nat := 1000000000

def nanosPerMilli : Nat := 1000000

/-- The longest duration: 64 bits of seconds and a full sub-second part. -/
def max : Nat := Nat.pow 2 64 * nanosPerSecond - 1

def ofSecs (secs : Nat) : Nat := secs * nanosPerSecond

def ofMillis (millis : Nat) : Nat := millis * nanosPerMilli

def secs (d : Nat) : Nat := d / nanosPerSecond

/-- The nanoseconds beyond the whole seconds. -/
def subsecNanos (d : Nat) : Nat := d % nanosPerSecond

def millis (d : Nat) : Nat := d / nanosPerMilli

/-- The sum, cut at the longest duration. -/
def saturatingAdd (a b : Nat) : Nat := min (a + b) max

/-- The seconds as a double: whole seconds and fraction are rounded before they are added. -/
def toSeconds (d : Nat) : Binary64 :=
  (Binary64.ofNat (secs d)).addMagnitudes
    ((Binary64.ofNat (subsecNanos d)).div (Binary64.ofNat nanosPerSecond))

def ofSeconds? (x : Binary64) : Option Nat :=
  match x.scaledRound nanosPerSecond with
  | some nanos => if nanos ≤ max then some nanos else none
  | none => none

end Duration

end ClusterHarness
