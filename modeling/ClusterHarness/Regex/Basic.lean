import ClusterHarness.Regex.CharSet

/-!
# Search patterns

A pattern and the places where a match of it ends.  A text is searched for a match anywhere in it,
which is all that is asked of a pattern here, so of the ways to match the set of ends is kept and not
their order.
-/

namespace ClusterHarness

inductive Place where
  | textStart
  | textEnd
  | lineStart
  | lineEnd
  | wordBoundary
  | noWordBoundary
  | wordStart
  | wordEnd
  | beforeWord
  | afterWord
  deriving DecidableEq, Repr

inductive Regex where
  | nothing
  | one (set : CharSet)
  | look (place : Place)
  | both (a b : Regex)
  | either (a b : Regex)
  | times (a : Regex) (least : Nat) (most : Option Nat)
  deriving DecidableEq, Repr

namespace Regex

/-- A place in a text: the character before it and what comes after it. -/
structure Cursor where
  before : Option Char
  rest : List Char
  deriving DecidableEq, Repr

def isWord (c : Option Char) : Bool := c.any CharSet.word.contains

def Cursor.meets (cursor : Cursor) (place : Place) : Bool :=
  let before := isWord cursor.before
  let after := isWord cursor.rest.head?
  match place with
  | .textStart => cursor.before.isNone
  | .textEnd => cursor.rest.isEmpty
  | .lineStart => cursor.before.all (· == '\n')
  | .lineEnd => cursor.rest.head?.all (· == '\n')
  | .wordBoundary => before != after
  | .noWordBoundary => before == after
  | .wordStart => !before && after
  | .wordEnd => before && !after
  | .beforeWord => !before
  | .afterWord => !after

/-- The place after a character of a set, if one comes next. -/
def Cursor.past? (set : CharSet) (cursor : Cursor) : Option Cursor :=
  match cursor.rest with
  | c :: rest => if set.contains c then some ⟨some c, rest⟩ else none
  | [] => none

def places (before : Option Char) : List Char → List Cursor
  | [] => [⟨before, []⟩]
  | c :: rest => ⟨before, c :: rest⟩ :: places (some c) rest

/-- Takes a step a number of times, unless no place is left before. -/
def repeated (step : List Cursor → List Cursor) : Nat → List Cursor → List Cursor
  | 0, cursors => cursors
  | n + 1, cursors => if cursors.isEmpty then [] else repeated step n (step cursors)

/-- Takes a step up to a number of times and keeps all places. -/
def spread (step : List Cursor → List Cursor) : Nat → List Cursor → List Cursor
  | 0, cursors => cursors
  | n + 1, cursors =>
    let more := (cursors ++ step cursors).eraseDups
    if more.length = cursors.length then cursors else spread step n more

/-- How many characters come after the places, at most. -/
def room (cursors : List Cursor) : Nat :=
  cursors.foldl (fun most cursor => Nat.max most cursor.rest.length) 0

/-- Where the matches that start at these places end.  After the least number of times a pattern can
only go on as often as characters are left. -/
def ends : Regex → List Cursor → List Cursor
  | nothing, cursors => cursors
  | one set, cursors => cursors.filterMap (·.past? set)
  | look place, cursors => cursors.filter (·.meets place)
  | both a b, cursors => b.ends (a.ends cursors)
  | either a b, cursors => (a.ends cursors ++ b.ends cursors).eraseDups
  | times a least most, cursors =>
    let cursors := repeated a.ends least cursors
    let more := room cursors + 1
    spread a.ends ((most.map fun most => Nat.min (most - least) more).getD more) cursors

def isMatch (pattern : Regex) (text : String) : Bool :=
  !(pattern.ends (places none text.toList)).isEmpty

/-- How many steps the pattern has when all its repetitions are written out. -/
def size : Regex → Nat
  | nothing => 0
  | one _ => 1
  | look _ => 1
  | both a b => a.size + b.size
  | either a b => a.size + b.size + 1
  | times a least most => (a.size + 1) * Nat.max 1 (most.getD (least + 1))

end Regex

end ClusterHarness
