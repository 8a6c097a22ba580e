/-!
# What one evaluation of a condition finds
-/

namespace ClusterHarness

namespace Polling

/-- The finding of one evaluation: the awaited state is reached, is not reached yet, or can never
be reached. -/
inductive Check (ε : Type) where
  | done
  | pending
  | failed (cause : ε)
  deriving DecidableEq, Repr

namespace Check

variable {ε φ : Type}

def ofBool : Bool → Check ε
  | true => .done
  | false => .pending

/-- A fallible yes-or-no condition: an error ends the wait. -/
def ofExcept : Except ε Bool → Check ε
  | .ok reached => ofBool reached
  | .error cause => .failed cause

/-- Rewords the cause of a failure. -/
def mapError (f : ε → φ) : Check ε → Check φ
  | .done => .done
  | .pending => .pending
  | .failed cause => .failed (f cause)

def isPending : Check ε → Bool
  | .pending => true
  | _ => false

def isDone : Check ε → Bool
  | .done => true
  | _ => false

end Check

inductive Outcome (ε : Type) where
  | success
  | timedOut (elapsed : Nat)
  | failed (cause : ε)
  deriving DecidableEq, Repr

namespace Outcome

variable {ε : Type}

def isSuccess : Outcome ε → Bool
  | .success => true
  | _ => false

end Outcome

end Polling

end ClusterHarness
