import ClusterHarness.Yaml.Value

/-!
# Edits of pipelines and tasks

Two edits: point every reference to a task at a bundle, and give every step of a name another image.
Both look through tags and keep the order of entries and keys.
-/

namespace ClusterHarness

namespace Yaml

/-- Sets a key among pairs, at its place or at the end. -/
def setPair (key : String) (value : Yaml) : List (Yaml × Yaml) → List (Yaml × Yaml)
  | [] => [(.str key, value)]
  | (k, v) :: rest =>
    if k == .str key then (k, value) :: rest else (k, v) :: setPair key value rest

def set : Yaml → String → Yaml → Yaml
  | .map pairs, key, new => .map (setPair key new pairs)
  | .tagged tag value, key, new => .tagged tag (value.set key new)
  | value, _, _ => value

def mapItems (f : Yaml → Yaml) : Yaml → Yaml
  | .seq items => .seq (items.map f)
  | .tagged tag value => .tagged tag (mapItems f value)
  | value => value

def alter (key : String) (f : Yaml → Yaml) (value : Yaml) : Yaml :=
  match value.get? key with
  | some old => value.set key (f old)
  | none => value

end Yaml

inductive EditError where
  | noSequence (field : String)
  | noReference (task : String)
  | noStep (step : String)
  deriving DecidableEq, Repr

def EditError.message : EditError → String
  | .noSequence field => "Object has no spec." ++ field
  | .noReference task => "Pipeline has no task referencing " ++ task ++ " from a bundle"
  | .noStep step => "Task has no step named " ++ step

namespace Bundle

def entries? (field : String) (object : Yaml) : Option (List Yaml) :=
  ((object.get? "spec").bind (·.get? field)).bind Yaml.items?

def mapEntries (field : String) (f : Yaml → Yaml) (object : Yaml) : Yaml :=
  object.alter "spec" (·.alter field (·.mapItems f))

def hasName (name : String) (value : Yaml) : Bool :=
  (value.get? "name").bind Yaml.string? == some name

def reference? (task : String) (entry : Yaml) : Option Yaml :=
  (entry.get? "taskRef").filter (hasName task)

def bundleOf? (reference : Yaml) : Option String :=
  (reference.get? "bundle").bind Yaml.string?

/-- Points an entry at a bundle, if it refers to this task. -/
def retargetEntry (task bundle : String) (entry : Yaml) : Yaml :=
  match reference? task entry with
  | some reference => entry.set "taskRef" (reference.set "bundle" (.str bundle))
  | none => entry

/-- The bundle that the last reference to a task has. -/
def lastBundle? (task : String) (entries : List Yaml) : Option String :=
  ((entries.filterMap (reference? task)).getLast?).bind bundleOf?

/-- Points all references to a task at a bundle.  The result is the bundle that the last of them
had; without one it is an error, but the references are changed all the same. -/
def retargetTask (task bundle : String) (pipeline : Yaml) : Except EditError String × Yaml :=
  match entries? "tasks" pipeline with
  | none => (.error (.noSequence "tasks"), pipeline)
  | some entries =>
    let changed := mapEntries "tasks" (retargetEntry task bundle) pipeline
    match lastBundle? task entries with
    | some previous => (.ok previous, changed)
    | none => (.error (.noReference task), changed)

def replaceImage (step image : String) (entry : Yaml) : Yaml :=
  if hasName step entry then entry.set "image" (.str image) else entry

/-- Gives the steps of a name another image; there has to be one. -/
def replaceStepImage (step image : String) (task : Yaml) : Except EditError Unit × Yaml :=
  match entries? "steps" task with
  | none => (.error (.noSequence "steps"), task)
  | some entries =>
    if entries.any (hasName step) then
      (.ok (), mapEntries "steps" (replaceImage step image) task)
    else (.error (.noStep step), task)

end Bundle

end ClusterHarness
