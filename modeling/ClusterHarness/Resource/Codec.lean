import ClusterHarness.Json.Basic
import ClusterHarness.Time.Timestamp

/-!
# Reading and writing records as JSON

A codec is a reader and a writer of one type.  The codec of a record is put together from its
parts: each names a member, says how its value is read and written, and what an absent member
means.  A record is also read from an array of its parts in order.
-/

namespace ClusterHarness

structure Codec (α : Type) where
  read : Json → Option α
  write : α → Json

namespace Codec

variable {α : Type}

def text : Codec String where
  read := Json.string?
  write := .str

def flag : Codec Bool where
  read := Json.bool?
  write := .bool

/-- Integers within bounds, both included. -/
def integer (low high : Int) : Codec Int where
  read
    | .int n => if low ≤ n ∧ n ≤ high then some n else none
    | _ => none
  write := .int

def int32 : Codec Int := integer (-2147483648) 2147483647

def int64 : Codec Int := integer (-9223372036854775808) 9223372036854775807

/-- Any value; it is kept in sorted form. -/
def any : Codec Json where
  read j := some j.sorted
  write j := j

def timestamp : Codec Timestamp where
  read
    | .str s => Timestamp.parse? s.toList
    | _ => none
  write t := .str t.text

def nullable (c : Codec α) : Codec (Option α) where
  read
    | .null => some none
    | j => (c.read j).map some
  write
    | none => .null
    | some a => c.write a

def list (c : Codec α) : Codec (List α) where
  read
    | .arr items => items.mapM c.read
    | _ => none
  write items := .arr (items.map c.write)

def dictionary (c : Codec α) : Codec (Dictionary α) where
  read
    | .obj members =>
      (members.mapM fun (m : String × Json) => (c.read m.2).map fun a => (m.1, a)).map
        Dictionary.ofList
    | _ => none
  write d := .obj (d.entries.map fun e => (e.1, c.write e.2))

end Codec

/-- The parts of a record `σ`, read to make an `α`. -/
structure Parts (σ α : Type) where
  ofMembers : List (String × Json) → Option α
  ofItems : List Json → Option (α × List Json)
  toMembers : σ → List (String × Json)

namespace Parts

variable {σ α β : Type}

def make (a : α) : Parts σ α where
  ofMembers _ := some a
  ofItems items := some (a, items)
  toMembers _ := []

def and (f : Parts σ (α → β)) (x : Parts σ α) : Parts σ β where
  ofMembers members := do (← f.ofMembers members) (← x.ofMembers members)
  ofItems items := do
    let (g, items) ← f.ofItems items
    let (a, items) ← x.ofItems items
    return (g a, items)
  toMembers s := f.toMembers s ++ x.toMembers s

def valuesOf (name : String) (members : List (String × Json)) : List Json :=
  (members.filter (·.1 == name)).map (·.2)

/-- A member that has to be there, once. -/
def required (name : String) (c : Codec α) (get : σ → α) : Parts σ α where
  ofMembers members :=
    match valuesOf name members with
    | [j] => c.read j
    | _ => none
  ofItems
    | [] => none
    | j :: items => (c.read j).map fun a => (a, items)
  toMembers s := [(name, c.write (get s))]

/-- A member that may be absent; values with the property are written by leaving it out. -/
def optional (name : String) (c : Codec α) (absent : α) (omitted : α → Bool) (get : σ → α) :
    Parts σ α where
  ofMembers members :=
    match valuesOf name members with
    | [] => some absent
    | [j] => c.read j
    | _ => none
  ofItems
    | [] => some (absent, [])
    | j :: items => (c.read j).map fun a => (a, items)
  toMembers s := if omitted (get s) then [] else [(name, c.write (get s))]

/-- A member that may be absent and is always written. -/
def defaulted (name : String) (c : Codec α) (absent : α) (get : σ → α) : Parts σ α :=
  optional name c absent (fun _ => false) get

def textOrEmpty (name : String) (get : σ → String) : Parts σ String :=
  optional name Codec.text "" (· == "") get

/-- A member that is left out when there is no value. -/
def maybe (name : String) (c : Codec α) (get : σ → Option α) : Parts σ (Option α) :=
  optional name c.nullable none Option.isNone get

/-- A member of an open record: null and absence are alike, and of several the last counts. -/
def lenient (name : String) (c : Codec α) (get : σ → Option α) : Parts σ (Option α) where
  ofMembers members :=
    ((valuesOf name members).mapM c.nullable.read).map fun values => values.getLast?.join
  ofItems _ := none
  toMembers s := ((get s).map fun a => (name, c.write a)).toList

/-- A member of an open record that stands for a default when null or absent. -/
def lenientOr (name : String) (c : Codec α) (absent : α) (get : σ → α) : Parts σ α where
  ofMembers members :=
    ((valuesOf name members).mapM c.nullable.read).map fun values =>
      values.getLast?.join.getD absent
  ofItems _ := none
  toMembers s := [(name, c.write (get s))]

end Parts

namespace Codec

variable {α : Type}

/-- A record, from an object or from an array of its parts. -/
def record (parts : Parts α α) : Codec α where
  read
    | .obj members => parts.ofMembers members
    | .arr items =>
      match parts.ofItems items with
      | some (a, []) => some a
      | _ => none
    | _ => none
  write a := .obj (parts.toMembers a)

/-- A record that is read from objects only. -/
def openRecord (parts : Parts α α) : Codec α where
  read
    | .obj members => parts.ofMembers members
    | _ => none
  write a := .obj (parts.toMembers a)

end Codec

end ClusterHarness
