import ClusterHarness.Json.Printer
import ClusterHarness.Yaml.Value

/-!
# How rehearsals write YAML

Collections are written in block style and words as they are, as the library does.  All other texts
are in double quotes, and what is unusual is in flow style, so that no value can be mistaken for
another.  A text that is not read as the value again is no text of it.
-/

namespace ClusterHarness

namespace Rehearsal

/-! ## Scalars -/

/-- So many hexadecimal digits of a number. -/
def hexDigits : Nat → Nat → List Char
  | 0, _ => []
  | count + 1, n => hexDigits count (n / 16) ++ [Json.hexDigit n]

def quotedChar (c : Char) : List Char :=
  if c = '"' ∨ c = '\\' then ['\\', c]
  else if 0x20 ≤ c.toNat ∧ c.toNat ≤ 0x7e then [c]
  else if c.toNat < 0x10000 then '\\' :: 'u' :: hexDigits 4 c.toNat
  else '\\' :: 'U' :: hexDigits 8 c.toNat

/-- Whether a text can stand for itself. -/
def isWord (text : List Char) : Bool :=
  text.all (fun c => c.isAlphanum || "-_./:".toList.contains c)
    && text.head?.any Char.isAlphanum && text.getLast? != some ':'
    && Yaml.ofPlain? (String.ofList text) == some (.str (String.ofList text))

def textScalar (text : List Char) : List Char :=
  if isWord text then text else '"' :: (text.flatMap quotedChar ++ ['"'])

def floatScalar : Binary64 → List Char
  | .nan => ".nan".toList
  | .infinite negative => (if negative then "-.inf" else ".inf").toList
  | x => x.scientific.toList

/-- A tag's name, with escapes for what cannot stand in it. -/
def tagName (name : String) : List Char :=
  '!' :: name.toList.flatMap fun c =>
    if Yaml.Scanner.isNameChar c then [c] else (Utf8.encodeChar c).flatMap Target.percent

/-- The longest key that a colon may follow on its own. -/
def shortKey : Nat := 1000

/-- Whether a key can do without the mark of a key. -/
def isUsualKey : Yaml → Bool
  | .str text => (textScalar text.toList).length ≤ shortKey
  | _ => false

/-! ## Flow style -/

def flowKey (key : Yaml) (text : List Char) : List Char :=
  if isUsualKey key then text ++ [':', ' '] else '?' :: ' ' :: (text ++ [' ', ':', ' '])

/-- Pieces with commas between them. -/
def listed (pieces : List (List Char)) : List Char := List.intercalate [',', ' '] pieces

mutual

def flow : Yaml → List Char
  | .null => "null".toList
  | .bool b => (if b then "true" else "false").toList
  | .int n => (toString n).toList
  | .float x => floatScalar x
  | .str text => textScalar text.toList
  | .seq items => '[' :: (listed (flowItems items) ++ [']'])
  | .map pairs => '\x7b' :: (listed (flowPairs pairs) ++ ['\x7d'])
  | .tagged tag value => tagName tag ++ ' ' :: flow value

def flowItems : List Yaml → List (List Char)
  | [] => []
  | item :: rest => flow item :: flowItems rest

def flowPairs : List (Yaml × Yaml) → List (List Char)
  | [] => []
  | (key, value) :: rest => (flowKey key (flow key) ++ flow value) :: flowPairs rest

end

/-! ## Block style -/

def indented (width : Nat) (line : List Char) : List Char := List.replicate width ' ' ++ line

/-- The lines of an item, the first one after its dash. -/
def itemLines : List (List Char) → List (List Char)
  | [] => []
  | first :: rest => ('-' :: ' ' :: first) :: rest.map (indented 2)

/-- The lines of a pair, given those of its value; a sequence is as far indented as its key. -/
def pairLines (key : List Char) (value : Yaml) (lines : List (List Char)) : List (List Char) :=
  match value with
  | .seq (_ :: _) => (key ++ [':']) :: lines
  | .map (_ :: _) => (key ++ [':']) :: lines.map (indented 2)
  | _ => lines.map fun line => key ++ ':' :: ' ' :: line

mutual

/-- The lines of a value, as far indented as it is itself. -/
def block : Yaml → List (List Char)
  | .seq items => if items.isEmpty then [flow (.seq items)] else blockItems items
  | .map pairs =>
    if pairs.isEmpty || !pairs.all (isUsualKey ·.1) then [flow (.map pairs)] else blockPairs pairs
  | value => [flow value]

def blockItems : List Yaml → List (List Char)
  | [] => []
  | item :: rest => itemLines (block item) ++ blockItems rest

def blockPairs : List (Yaml × Yaml) → List (List Char)
  | [] => []
  | (key, value) :: rest => pairLines (flow key) value (block value) ++ blockPairs rest

end

/-- The text of a value, if it is read as the value again. -/
def yamlText (value : Yaml) : Option String :=
  let text := String.ofList ((block value).flatMap fun line => line ++ ['\n'])
  if Yaml.ofText? text == some value then some text else none

end Rehearsal

end ClusterHarness
