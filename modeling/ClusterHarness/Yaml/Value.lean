import ClusterHarness.Json.Basic
import ClusterHarness.Numeric.Decimal
import ClusterHarness.Yaml.Node

/-!
# Values of YAML

Plain scalars that look like one are null, truth values or numbers; all others are texts.  A mapping
keeps its pairs in order and has each key once.
-/

namespace ClusterHarness

inductive Yaml where
  | null
  | bool (value : Bool)
  | int (value : Int)
  | float (value : Binary64)
  | str (value : String)
  | seq (items : List Yaml)
  | map (pairs : List (Yaml × Yaml))
  | tagged (tag : String) (value : Yaml)
  deriving Inhabited, Repr

namespace Yaml

mutual

def same : Yaml → Yaml → Bool
  | .null, .null => true
  | .bool a, .bool b => a == b
  | .int a, .int b => a == b
  | .float a, .float b => a == b
  | .str a, .str b => a == b
  | .seq a, .seq b => sameItems a b
  | .map a, .map b => samePairs a b
  | .tagged s a, .tagged t b => s == t && same a b
  | _, _ => false

def sameItems : List Yaml → List Yaml → Bool
  | [], [] => true
  | a :: as, b :: bs => same a b && sameItems as bs
  | _, _ => false

def samePairs : List (Yaml × Yaml) → List (Yaml × Yaml) → Bool
  | [], [] => true
  | (k, a) :: as, (l, b) :: bs => same k l && same a b && samePairs as bs
  | _, _ => false

end

instance : BEq Yaml := ⟨same⟩

/-! ## Scalars -/

def isNull (text : List Char) : Bool :=
  ["null", "Null", "NULL", "~"].any fun word => word.toList = text

def bool? (text : List Char) : Option Bool :=
  if ["true", "True", "TRUE"].any fun word => word.toList = text then some true
  else if ["false", "False", "FALSE"].any fun word => word.toList = text then some false
  else none

/-- The value of digits to a base; there is at least one. -/
def natural? (base : Nat) (digits : List Char) : Option Nat :=
  if digits.isEmpty then none
  else digits.foldlM (fun n c => (Target.hexValue? c).bind fun d =>
    if d < base then some (base * n + d) else none) 0

def dropPlus : List Char → List Char
  | '+' :: rest => rest
  | text => text

/-- Whether a text is several digits of which the first is zero; such a text is no number. -/
def hasLeadingZero (text : List Char) : Bool :=
  let digits := match text with
    | '-' :: rest | '+' :: rest => rest
    | text => text
  1 < digits.length && digits.head? = some '0' && digits.all Char.isDigit

def magnitude? (text : List Char) : Option Nat :=
  let based := match text with
    | '0' :: 'x' :: digits => natural? 16 digits
    | '0' :: 'o' :: digits => natural? 8 digits
    | '0' :: 'b' :: digits => natural? 2 digits
    | _ => none
  match based with
  | some n => some n
  | none => if hasLeadingZero text then none else natural? 10 text

def integer? (text : List Char) : Option Int :=
  match text with
  | '-' :: rest => (magnitude? rest).map fun n => -(n : Int)
  | text => (magnitude? (dropPlus text)).map fun n => (n : Int)

def isSign (c : Char) : Bool := c = '+' || c = '-'

/-- The exponent part of a number, if the text is one; an absent one is zero. -/
def exponent? (text : List Char) : Option Int :=
  match text with
  | [] => some 0
  | e :: rest =>
    if e = 'e' ∨ e = 'E' then
      match rest with
      | '-' :: digits => (natural? 10 digits).map fun n => -(n : Int)
      | digits => (natural? 10 (dropPlus digits)).map fun n => (n : Int)
    else none

/-- The number that a text without its sign spells in decimal. -/
def decimal? (negative : Bool) (text : List Char) : Option Binary64 := do
  let whole := text.takeWhile Char.isDigit
  let rest := text.dropWhile Char.isDigit
  let (fraction, rest) := match rest with
    | '.' :: more => (more.takeWhile Char.isDigit, more.dropWhile Char.isDigit)
    | rest => ([], rest)
  let digits ← natural? 10 (whole ++ fraction)
  let exponent ← exponent? rest
  let exponent := exponent - fraction.length
  if digits = 0 ∨ exponent + whole.length + fraction.length < -400 then
    some (Binary64.zero negative)
  else if 400 < exponent then none
  else
    let value := Binary64.ofDecimal negative digits exponent
    if value.isFinite then some value else none

def float? (text : List Char) : Option Binary64 :=
  let unsigned := dropPlus text
  if text.head? = some '+' ∧ unsigned.head?.any isSign then none
  else if [".inf", ".Inf", ".INF"].any fun word => word.toList = unsigned then
    some (.infinite false)
  else if ["-.inf", "-.Inf", "-.INF"].any fun word => word.toList = text then
    some (.infinite true)
  else if [".nan", ".NaN", ".NAN"].any fun word => word.toList = text then some .nan
  else match unsigned with
    | '-' :: rest => decimal? true rest
    | rest => decimal? false rest

/-- The least and the greatest integer that are values. -/
def fitsInteger (n : Int) : Bool := -9223372036854775808 ≤ n && n ≤ 18446744073709551615

/-- Whether an integer is too large for a value but is still read as an integer. -/
def isWideInteger (n : Int) : Bool :=
  -170141183460469231731687303715884105728 ≤ n && n ≤ 340282366920938463463374607431768211455

def ofPlain? (text : String) : Option Yaml :=
  let chars := text.toList
  if chars.isEmpty || isNull chars then some .null
  else match bool? chars with
    | some b => some (.bool b)
    | none =>
      match (integer? chars).filter isWideInteger with
      | some n => if fitsInteger n then some (.int n) else none
      | none =>
        if hasLeadingZero chars then some (.str text)
        else match float? chars with
          | some x => some (.float x)
          | none => some (.str text)

/-- The value of a scalar whose tag is one of the common ones. -/
def ofCommonTag? (tag : String) (text : String) : Option Yaml :=
  let chars := text.toList
  match tag with
  | "tag:yaml.org,2002:bool" => (bool? chars).map .bool
  | "tag:yaml.org,2002:int" => ((integer? chars).filter fitsInteger).map .int
  | "tag:yaml.org,2002:float" => (float? chars).map .float
  | "tag:yaml.org,2002:null" => if isNull chars then some .null else none
  | _ => some (.str text)

/-! ## Nodes -/

/-- How deep collections may be nested. -/
def depthLimit : Nat := 128

/-- The name of a tag that is an application's own. -/
def ownTag? (tag : Option String) : Option (List Char) :=
  match tag.map String.toList with
  | some ('!' :: name) => some name
  | _ => none

/-- A value with the tag of its node, which has to have a name. -/
def tagged? (tag : Option String) (value : Yaml) : Option Yaml :=
  match ownTag? tag with
  | none => some value
  | some [] => none
  | some name => some (.tagged (String.ofList name) value)

def addPair (pairs : List (Yaml × Yaml)) (key value : Yaml) : Option (List (Yaml × Yaml)) :=
  if pairs.any (·.1 == key) then none else some (pairs ++ [(key, value)])

mutual

def ofNode (depth : Nat) : Node → Option Yaml
  | .scalar tag plain text =>
    if (ownTag? tag).isSome then
      (if plain then ofPlain? text else some (.str text)).bind (tagged? tag)
    else match tag with
      | some tag => ofCommonTag? tag text
      | none => if plain then ofPlain? text else some (.str text)
  | .seq tag items =>
    match depth with
    | 0 => none
    | depth + 1 => do tagged? tag (.seq (← ofNodes depth items))
  | .map tag pairs =>
    match depth with
    | 0 => none
    | depth + 1 => do tagged? tag (.map (← ofPairs depth [] pairs))

def ofNodes (depth : Nat) : List Node → Option (List Yaml)
  | [] => some []
  | node :: rest => do return (← ofNode depth node) :: (← ofNodes depth rest)

def ofPairs (depth : Nat) (before : List (Yaml × Yaml)) :
    List (Node × Node) → Option (List (Yaml × Yaml))
  | [] => some before
  | (key, value) :: rest => do
    ofPairs depth (← addPair before (← ofNode depth key) (← ofNode depth value)) rest

end

def ofNode? (node : Node) : Option Yaml := ofNode depthLimit node

/-- The value of a text that is one document. -/
def ofText? (text : String) : Option Yaml := (Node.ofText? text).bind ofNode?

/-! ## Looking inside -/

def untagged : Yaml → Yaml
  | .tagged _ value => untagged value
  | value => value

def string? (value : Yaml) : Option String :=
  match value.untagged with
  | .str s => some s
  | _ => none

def get? (value : Yaml) (key : String) : Option Yaml :=
  match value.untagged with
  | .map pairs => (pairs.find? (·.1 == .str key)).map (·.2)
  | _ => none

def items? (value : Yaml) : Option (List Yaml) :=
  match value.untagged with
  | .seq items => some items
  | _ => none

/-! ## As JSON -/

def keyText? : Yaml → Option String
  | .str s => some s
  | .bool b => some (if b then "true" else "false")
  | .int n => some (toString n)
  | .float x => if x.isFinite then some (x.scientific) else none
  | _ => none

mutual

/-- The value as JSON, if its keys allow; numbers that are not finite become null. -/
def toJson? : Yaml → Option Json
  | .null => some .null
  | .bool b => some (.bool b)
  | .int n => some (.int n)
  | .float x => some (if x.isFinite then .float x else .null)
  | .str s => some (.str s)
  | .seq items => (toJsonItems items).map .arr
  | .map pairs => (toJsonMembers pairs).map .obj
  | .tagged tag value => (toJson? value).map fun j => .obj [("!" ++ tag, j)]

def toJsonItems : List Yaml → Option (List Json)
  | [] => some []
  | item :: rest => do return (← toJson? item) :: (← toJsonItems rest)

def toJsonMembers : List (Yaml × Yaml) → Option (List (String × Json))
  | [] => some []
  | (key, value) :: rest => do
    return ((← keyText? key), (← toJson? value)) :: (← toJsonMembers rest)

def ofJson : Json → Yaml
  | .null => .null
  | .bool b => .bool b
  | .int n => .int n
  | .float x => .float x
  | .str s => .str s
  | .arr items => .seq (ofJsonItems items)
  | .obj members => .map (ofJsonMembers members)

def ofJsonItems : List Json → List Yaml
  | [] => []
  | item :: rest => ofJson item :: ofJsonItems rest

def ofJsonMembers : List (String × Json) → List (Yaml × Yaml)
  | [] => []
  | (name, value) :: rest => (.str name, ofJson value) :: ofJsonMembers rest

end

end Yaml

end ClusterHarness
