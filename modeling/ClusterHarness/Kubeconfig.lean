import ClusterHarness.Error
import ClusterHarness.Yaml.Value

/-!
# Configurations of clusters

A configuration names clusters and contexts; the current context says which cluster to talk to and
in which namespace.  Of several documents the first to name something counts.
-/

namespace ClusterHarness

structure KubeContext where
  cluster : String
  namespace_ : Option String

structure Kubeconfig where
  /-- Names with the address of the server, if any. -/
  clusters : List (String × Option String)
  contexts : List (String × Option KubeContext)
  current : Option String
  kind : Option String
  apiVersion : Option String

namespace Kubeconfig

/-! ## Reading -/

/-- A member that may be absent or null. -/
def member (value : Yaml) (name : String) : Option Yaml :=
  match value.get? name with
  | some .null => none
  | other => other

/-- A text that may be absent or null. -/
def text? (value : Yaml) (name : String) : Option (Option String) :=
  match member value name with
  | none => some none
  | some value => value.string?.map some

def isMap (value : Yaml) : Bool :=
  match value.untagged with
  | .map _ => true
  | _ => false

/-- A list that may be absent or null. -/
def list? (value : Yaml) (name : String) : Option (List Yaml) :=
  match member value name with
  | none => some []
  | some value => value.items?

/-- An item of a list: its name and what it names. -/
def named? {α : Type} (name : String) (read : Yaml → Option α) (item : Yaml) :
    Option (String × Option α) := do
  let title ← (item.get? "name").bind Yaml.string?
  match member item name with
  | none => return (title, none)
  | some value => if isMap value then return (title, some (← read value)) else none

def readContext (value : Yaml) : Option KubeContext := do
  let cluster ← (value.get? "cluster").bind Yaml.string?
  discard <| text? value "user"
  return ⟨cluster, ← text? value "namespace"⟩

def ofYaml? (value : Yaml) : Option Kubeconfig :=
  if isMap value then do
    let clusters ← (← list? value "clusters").mapM (named? "cluster" (text? · "server"))
    let contexts ← (← list? value "contexts").mapM (named? "context" readContext)
    discard <| (← list? value "users").mapM (named? "user" some)
    return {
      clusters := clusters.map fun c => (c.1, c.2.join)
      contexts
      current := ← text? value "current-context"
      kind := ← text? value "kind"
      apiVersion := ← text? value "apiVersion" }
  else none

/-- Adds the items whose names are new. -/
def addNamed {α : Type} (items more : List (String × α)) : List (String × α) :=
  items ++ more.filter fun item => !items.any (·.1 == item.1)

/-- Whether two documents may differ in nothing that both say. -/
def agree (a b : Option String) : Bool := a.isNone || b.isNone || a = b

def merge (a b : Kubeconfig) : Option Kubeconfig :=
  if agree a.kind b.kind ∧ agree a.apiVersion b.apiVersion then
    some {
      clusters := addNamed a.clusters b.clusters
      contexts := addNamed a.contexts b.contexts
      current := a.current.or b.current
      kind := a.kind.or b.kind
      apiVersion := a.apiVersion.or b.apiVersion }
  else none

def empty : Kubeconfig := ⟨[], [], none, none, none⟩

def ofText? (text : String) : Option Kubeconfig := do
  let documents ← Yaml.Node.documents? text
  let configs ← documents.mapM fun node => (Yaml.ofNode? node).bind ofYaml?
  match configs with
  | [] => return empty
  | first :: rest => rest.foldlM merge first

/-! ## Addresses -/

def isAuthorityChar (c : Char) : Bool :=
  c.isAlphanum || "-._~!$&'()*+,;=:@[]%".toList.contains c

def isSchemeText (text : List Char) : Bool :=
  !text.isEmpty && text.all fun c => c.isAlphanum || c = '+' || c = '-' || c = '.'

def isPathAndQuery (text : List Char) : Bool :=
  let text := text.takeWhile (· ≠ '#')
  (text.takeWhile (· ≠ '?')).all Target.pathChar
    && ((text.dropWhile (· ≠ '?')).drop 1).all Target.queryChar

def afterScheme? (text : List Char) : Option (List Char) :=
  match Text.cut ':' text with
  | some (scheme, '/' :: '/' :: rest) => if isSchemeText scheme then some rest else none
  | _ => none

/-- Whether a text is an address: with a scheme and a host, a host alone, or a path alone. -/
def isAddress (text : List Char) : Bool :=
  match text with
  | '/' :: _ => isPathAndQuery text
  | text =>
    let isEnd (c : Char) : Bool := c = '/' || c = '?' || c = '#'
    match afterScheme? text with
    | some rest =>
      let host := rest.takeWhile (¬isEnd ·)
      !host.isEmpty && host.all isAuthorityChar && isPathAndQuery (rest.dropWhile (¬isEnd ·))
    | none => !text.isEmpty && text.all isAuthorityChar

/-! ## Connecting -/

/-- The namespace of the current context, if its cluster has an address. -/
def currentNamespace? (config : Kubeconfig) : Option String := do
  let current ← config.current
  let context ← (← (config.contexts.find? (·.1 == current)).map (·.2))
  let server ← (← (config.clusters.find? (·.1 == context.cluster)).map (·.2))
  if isAddress server.toList then return context.namespace_.getD "default" else none

def defaultNamespace (text : String) : Except Error String :=
  match (ofText? text).bind currentNamespace? with
  | some name => .ok name
  | none => .error .clientSetup

end Kubeconfig

end ClusterHarness
