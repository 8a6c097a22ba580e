import ClusterHarness.Yaml.Token

/-!
# Nodes of YAML

A document is a tree of scalars, sequences and mappings.  Nodes keep whether a scalar was quoted
and which tag they have, since what a reader makes of them depends on it; aliases are replaced by
what they stand for.
-/

namespace ClusterHarness

namespace Yaml

inductive Node where
  | scalar (tag : Option String) (plain : Bool) (text : String)
  | seq (tag : Option String) (items : List Node)
  | map (tag : Option String) (pairs : List (Node × Node))
  deriving Inhabited, Repr

namespace Node

def empty : Node := .scalar none true ""

def withTag (tag : Option String) : Node → Node
  | .scalar _ plain text => .scalar tag plain text
  | .seq _ items => .seq tag items
  | .map _ pairs => .map tag pairs

end Node

/-- What is left of a document's tokens, the leads of its tag handles, and the nodes of its
anchors.  While an anchor's node is being read, it stands for nothing. -/
structure Reading where
  tokens : List Token
  leads : List (List Char × List Char)
  anchors : List (List Char × Option Node)

abbrev Reader (α : Type) := StateT Reading Option α

namespace Reader

def peek : Reader (Option Token) := do return (← get).tokens.head?

def skip : Reader Unit := modify fun r => { r with tokens := r.tokens.tail }

def fail {α : Type} : Reader α := StateT.lift none

/-- Takes the next token if it is this one. -/
def takes (token : Token) : Reader Bool := do
  if (← peek) = some token then do
    skip
    return true
  else return false

def expect (token : Token) : Reader Unit := do
  if !(← takes token) then fail

/-- Anchor and tag of a node. -/
structure Properties where
  anchor : Option (List Char)
  tag : Option String

def fullTag (handle suffix : List Char) : Reader String := do
  if handle.isEmpty then return String.ofList suffix
  else
    let leads := (← get).leads ++ [(['!'], ['!']), (['!', '!'], "tag:yaml.org,2002:".toList)]
    match leads.find? (·.1 = handle) with
    | some (_, lead) => return String.ofList (lead ++ suffix)
    | none => fail

def anchor? : Reader (Option (List Char)) := do
  match ← peek with
  | some (.anchor name) =>
    skip
    return some name
  | _ => return none

def tag? : Reader (Option String) := do
  match ← peek with
  | some (.tag handle suffix) =>
    skip
    return some (← fullTag handle suffix)
  | _ => return none

def properties : Reader Properties := do
  match ← anchor? with
  | some name => return ⟨some name, ← tag?⟩
  | none =>
    let tag ← tag?
    return ⟨← anchor?, tag⟩

def bind (anchor : Option (List Char)) (node : Option Node) : Reader Unit :=
  match anchor with
  | some name => modify fun r => { r with anchors := (name, node) :: r.anchors }
  | none => return ()

def aliased (name : List Char) : Reader Node := do
  match ((← get).anchors.find? (·.1 = name)).bind (·.2) with
  | some node => return node
  | none => fail

mutual

/-- Reads a node; in a block, block collections may begin, and a sequence need not be indented
below the key it belongs to. -/
def node (block unindented : Bool) : Nat → Reader Node
  | 0 => fail
  | fuel + 1 => do
    match ← peek with
    | some (.alias name) =>
      skip
      aliased name
    | _ =>
      let properties ← properties
      bind properties.anchor none
      let content ← content block unindented (properties.anchor.isSome || properties.tag.isSome) fuel
      let node := content.withTag properties.tag
      bind properties.anchor (some node)
      return node

/-- Reads a node's content, which only a node with properties may lack. -/
def content (block unindented optional : Bool) : Nat → Reader Node
  | 0 => fail
  | fuel + 1 => do
    match ← peek with
    | some (.scalar plain text) =>
      skip
      return .scalar none plain (String.ofList text)
    | some .flowSequence =>
      skip
      return .seq none (← flowItems true fuel)
    | some .flowMapping =>
      skip
      return .map none (← flowPairs true fuel)
    | some .blockSequence =>
      if block then
        skip
        return .seq none (← blockItems fuel)
      else if optional then return .empty else fail
    | some .blockMapping =>
      if block then
        skip
        return .map none (← blockPairs fuel)
      else if optional then return .empty else fail
    | some .blockEntry =>
      if unindented then return .seq none (← unindentedItems fuel)
      else if optional then return .empty else fail
    | _ => if optional then return .empty else fail

def nodeUnless (ends : List Token) (block unindented : Bool) : Nat → Reader Node
  | 0 => fail
  | fuel + 1 => do
    if (← peek).any ends.contains then return .empty else node block unindented fuel

def blockItems : Nat → Reader (List Node)
  | 0 => fail
  | fuel + 1 => do
    if ← takes .blockEntry then
      let item ← nodeUnless [.blockEntry, .blockEnd] true false fuel
      return item :: (← blockItems fuel)
    else
      expect .blockEnd
      return []

def unindentedItems : Nat → Reader (List Node)
  | 0 => fail
  | fuel + 1 => do
    if ← takes .blockEntry then
      let item ← nodeUnless [.blockEntry, .key, .value, .blockEnd] true false fuel
      return item :: (← unindentedItems fuel)
    else return []

def blockPairs : Nat → Reader (List (Node × Node))
  | 0 => fail
  | fuel + 1 => do
    if ← takes .key then
      let key ← nodeUnless [.key, .value, .blockEnd] true true fuel
      let value ← if ← takes .value then nodeUnless [.key, .value, .blockEnd] true true fuel
        else pure Node.empty
      return (key, value) :: (← blockPairs fuel)
    else
      expect .blockEnd
      return []

/-- Reads the items of a flow sequence; one with a key is a mapping of one pair. -/
def flowItems (first : Bool) : Nat → Reader (List Node)
  | 0 => fail
  | fuel + 1 => do
    if ← takes .flowSequenceEnd then return []
    else
      if !first then expect .flowEntry
      if ← takes .flowSequenceEnd then return []
      else if ← takes .key then
        let key ← nodeUnless [.value, .flowEntry, .flowSequenceEnd] false false fuel
        let value ← if ← takes .value then
            nodeUnless [.flowEntry, .flowSequenceEnd] false false fuel
          else pure Node.empty
        return .map none [(key, value)] :: (← flowItems false fuel)
      else
        let item ← node false false fuel
        return item :: (← flowItems false fuel)

/-- Reads the pairs of a flow mapping; what is no key has no value. -/
def flowPairs (first : Bool) : Nat → Reader (List (Node × Node))
  | 0 => fail
  | fuel + 1 => do
    if ← takes .flowMappingEnd then return []
    else
      if !first then expect .flowEntry
      if ← takes .flowMappingEnd then return []
      else if ← takes .key then
        let key ← nodeUnless [.value, .flowEntry, .flowMappingEnd] false false fuel
        let value ← if ← takes .value then
            nodeUnless [.flowEntry, .flowMappingEnd] false false fuel
          else pure Node.empty
        return (key, value) :: (← flowPairs false fuel)
      else
        let key ← node false false fuel
        return (key, .empty) :: (← flowPairs false fuel)

end

/-- Enough for all calls of a text with so many tokens. -/
def fuelFor (tokens : Nat) : Nat := 4 * tokens + 8

/-- Reads a document's directives; each handle is defined once. -/
def directives (version : Bool) : Nat → Reader Unit
  | 0 => fail
  | fuel + 1 => do
    match ← peek with
    | some .version => if version then fail else do
      skip
      directives true fuel
    | some (.tagPrefix handle lead) =>
      if (← get).leads.any (·.1 = handle) then fail
      else
        modify fun r => { r with tokens := r.tokens.tail, leads := r.leads ++ [(handle, lead)] }
        directives version fuel
    | _ => return ()

def startsDirective : Token → Bool
  | .version | .tagPrefix .. => true
  | _ => false

/-- Reads a document's content, which may be missing after its mark. -/
def documentContent (fuel : Nat) : Reader Node := do
  match ← peek with
  | none | some .documentStart | some .documentEnd => return .empty
  | some token => if startsDirective token then return .empty else node true false fuel

def skipDocumentEnds : Nat → Reader Unit
  | 0 => return ()
  | fuel + 1 => do if ← takes .documentEnd then skipDocumentEnds fuel

/-- Reads documents to the end; only the first may do without its mark. -/
def documents (first : Bool) : Nat → Reader (List Node)
  | 0 => fail
  | fuel + 1 => do
    if !first then skipDocumentEnds (fuel + 1)
    modify fun r => { r with leads := [], anchors := [] }
    match ← peek with
    | none => return []
    | some token =>
      let document ← if first ∧ token ≠ .documentStart ∧ !startsDirective token then
          node true false fuel
        else do
          directives false (fuel + 1)
          expect .documentStart
          documentContent fuel
      discard <| takes .documentEnd
      return document :: (← documents false fuel)

end Reader

def Node.documents? (text : String) : Option (List Node) := do
  let tokens ← Token.ofText? text.toList
  let (documents, _) ← (Reader.documents true (Reader.fuelFor tokens.length)).run ⟨tokens, [], []⟩
  return documents

/-- The only document of a text; one without content is empty. -/
def Node.ofText? (text : String) : Option Node := do
  match ← Node.documents? text with
  | [] => return .empty
  | [document] => return document
  | _ => none

namespace Node

/-! ## Reading records -/

/-- Whether a node is a plain scalar without text, which stands for any collection. -/
def isEmpty : Node → Bool
  | .scalar _ plain text => plain && text.isEmpty
  | _ => false

/-- The text of a scalar, whatever it looks like. -/
def text? : Node → Option String
  | .scalar _ _ text => some text
  | _ => none

def items? (node : Node) : Option (List Node) :=
  match node with
  | .seq _ items => some items
  | node => if node.isEmpty then some [] else none

def pairs? (node : Node) : Option (List (Node × Node)) :=
  match node with
  | .map _ pairs => some pairs
  | node => if node.isEmpty then some [] else none

/-- The members of a record, of which each known one occurs once at most. -/
def fields? (known : List String) (node : Node) : Option (List (String × Node)) := do
  let pairs ← node.pairs?
  let named ← pairs.mapM fun (key, value) => key.text?.map fun name => (name, value)
  let fields := named.filter fun field => known.contains field.1
  if fields.Pairwise (·.1 ≠ ·.1) then some fields else none

end Node

end Yaml

end ClusterHarness
