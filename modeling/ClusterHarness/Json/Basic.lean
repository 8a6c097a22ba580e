import ClusterHarness.Dictionary
import ClusterHarness.Numeric.Binary64

/-!
# JSON values

An object keeps its members in the order of the text, repetitions included: a reader of a record
refuses a repeated field, a reader of a map takes the last one.  `Json.sorted` is the form in
which a value is written, members ordered by name and each name once.
-/

namespace ClusterHarness

inductive Json where
  | null
  | bool (value : Bool)
  | int (value : Int)
  | float (value : Binary64)
  | str (value : String)
  | arr (items : List Json)
  | obj (members : List (String × Json))
  deriving Inhabited, Repr

namespace Json

instance : Coe String Json := ⟨.str⟩
instance : Coe Bool Json := ⟨.bool⟩
instance : Coe Int Json := ⟨.int⟩
instance : Coe Nat Json := ⟨fun n => .int n⟩

/-- Looks a name up among members; of a repeated name the last member counts. -/
def lookup (members : List (String × Json)) (name : String) : Option Json :=
  (members.reverse.find? (·.1 == name)).map (·.2)

def get? (name : String) : Json → Option Json
  | .obj members => lookup members name
  | _ => none

def isNull : Json → Bool
  | .null => true
  | _ => false

def string? : Json → Option String
  | .str s => some s
  | _ => none

def bool? : Json → Option Bool
  | .bool b => some b
  | _ => none

def array? : Json → Option (List Json)
  | .arr items => some items
  | _ => none

def members? : Json → Option (List (String × Json))
  | .obj members => some members
  | _ => none

/-- A value that may be missing. -/
def ofOption {α : Type} (f : α → Json) (a : Option α) : Json := (a.map f).getD .null

instance : Coe (Option String) Json := ⟨ofOption .str⟩
instance : Coe (List String) Json := ⟨fun l => .arr (l.map .str)⟩
instance : Coe (List Json) Json := ⟨.arr⟩

/-! ## Members with defaults -/

/-- A member that is a text, or the empty text. -/
def textAt (j : Json) (name : String) : String := ((j.get? name).bind string?).getD ""

def textAt? (j : Json) (name : String) : Option String := (j.get? name).bind string?

def natAt? (j : Json) (name : String) : Option Nat :=
  match j.get? name with
  | some (.int n) => some n.toNat
  | _ => none

def isTrueAt (j : Json) (name : String) : Bool := (j.get? name).bind bool? = some true

/-- The items of a member, none if it is not there. -/
def itemsAt (j : Json) (name : String) : List Json := ((j.get? name).bind array?).getD []

def textsAt (j : Json) (name : String) : List String := (j.itemsAt name).filterMap string?

/-- The texts among the members of a member. -/
def pairsAt (j : Json) (name : String) : List (String × String) :=
  (((j.get? name).bind members?).getD []).filterMap fun (k, v) => v.string?.map fun s => (k, s)

/-- Members by name, the last of each name kept. -/
def sortMembers (members : List (String × Json)) : List (String × Json) := Entries.sort members

mutual

def sorted : Json → Json
  | .arr items => .arr (sortedItems items)
  | .obj members => .obj (sortMembers (sortedMembers members))
  | value => value

def sortedItems : List Json → List Json
  | [] => []
  | item :: rest => sorted item :: sortedItems rest

def sortedMembers : List (String × Json) → List (String × Json)
  | [] => []
  | (name, value) :: rest => (name, sorted value) :: sortedMembers rest

end

mutual

/-- Equality of values, members in the same order. -/
def same : Json → Json → Bool
  | .null, .null => true
  | .bool a, .bool b => a == b
  | .int a, .int b => a == b
  | .float a, .float b => a == b
  | .str a, .str b => a == b
  | .arr a, .arr b => sameItems a b
  | .obj a, .obj b => sameMembers a b
  | _, _ => false

def sameItems : List Json → List Json → Bool
  | [], [] => true
  | a :: as, b :: bs => same a b && sameItems as bs
  | _, _ => false

def sameMembers : List (String × Json) → List (String × Json) → Bool
  | [], [] => true
  | (j, a) :: as, (k, b) :: bs => j == k && same a b && sameMembers as bs
  | _, _ => false

end

instance : BEq Json := ⟨same⟩

end Json

end ClusterHarness
