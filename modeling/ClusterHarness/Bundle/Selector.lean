import ClusterHarness.Host.Failure
import ClusterHarness.Yaml.Node

/-!
# Selectors of build pipelines

A selector picks a pipeline by name and says which bundle it is in.
-/

namespace ClusterHarness

structure Selector where
  name : String
  bundle : String
  deriving DecidableEq, Repr

namespace Selector

open Yaml

def field? (fields : List (String × Node)) (name : String) : Option Node :=
  (fields.find? (·.1 == name)).map (·.2)

def ofNode? (node : Node) : Option Selector := do
  let fields ← node.fields? ["name", "pipelineRef"]
  let name ← (← field? fields "name").text?
  let reference ← (← field? fields "pipelineRef").fields? ["bundle"]
  match field? reference "bundle" with
  | some bundle => return ⟨name, ← bundle.text?⟩
  | none => return ⟨name, ""⟩

def list? (text : String) : Option (List Selector) := do
  let fields ← (← Node.ofText? text).fields? ["spec"]
  let spec ← (← field? fields "spec").fields? ["selectors"]
  match field? spec "selectors" with
  | some selectors => (← selectors.items?).mapM ofNode?
  | none => return []

def bundleOf (text name : String) : Except Failure String :=
  match list? text with
  | none => .error ((Failure.malformed .yaml).within "Invalid build pipeline selector")
  | some selectors =>
    match selectors.find? (·.name == name) with
    | none =>
      .error (Failure.ofText
        ("No selector named " ++ name ++ " in the build pipeline selector"))
    | some selector =>
      if selector.bundle.isEmpty then
        .error (Failure.ofText ("Selector " ++ name ++ " does not reference a bundle"))
      else .ok selector.bundle

end Selector

end ClusterHarness
