import ClusterHarness.Resource.Codec

/-!
# Status conditions

A list of conditions has one entry a type.  Setting a condition moves its transition time only
when its status changes; a condition without a time of its own takes the time of the clock.
-/

namespace ClusterHarness

structure Condition where
  type : String
  status : String
  reason : String
  message : String
  lastTransitionTime : Option Timestamp
  observedGeneration : Option Int
  deriving DecidableEq, Repr

namespace Condition

open Parts

def codec : Codec Condition := Codec.record <|
  make Condition.mk
  |>.and (required "type" Codec.text (·.type))
  |>.and (required "status" Codec.text (·.status))
  |>.and (textOrEmpty "reason" (·.reason))
  |>.and (textOrEmpty "message" (·.message))
  |>.and (maybe "lastTransitionTime" Codec.timestamp (·.lastTransitionTime))
  |>.and (maybe "observedGeneration" Codec.int64 (·.observedGeneration))

/-- A condition with status `True`. -/
def truthy (type reason message : String) : Condition :=
  ⟨type, "True", reason, message, none, none⟩

def isTrue (c : Condition) : Bool := c.status == "True"

def isFalse (c : Condition) : Bool := c.status == "False"

def isUnknown (c : Condition) : Bool := c.status == "Unknown"

def find? (conditions : List Condition) (type : String) : Option Condition :=
  conditions.find? (·.type == type)

/-- Whether the first condition of a type has status `True`. -/
def holds (conditions : List Condition) (type : String) : Bool :=
  (find? conditions type).any isTrue

def stamped (now : Timestamp) (c : Condition) : Condition :=
  { c with lastTransitionTime := some (c.lastTransitionTime.getD now) }

def updated (now : Timestamp) (old new : Condition) : Condition :=
  { old with
    status := new.status
    lastTransitionTime :=
      if old.status = new.status then old.lastTransitionTime
      else some (new.lastTransitionTime.getD now)
    reason := new.reason
    message := new.message
    observedGeneration := new.observedGeneration }

/-- Inserts a condition, or updates the first one of its type. -/
def set (now : Timestamp) (new : Condition) : List Condition → List Condition
  | [] => [stamped now new]
  | c :: rest => if c.type = new.type then updated now c new :: rest else c :: set now new rest

end Condition

end ClusterHarness
