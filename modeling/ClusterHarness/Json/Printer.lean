import ClusterHarness.Json.Basic
import ClusterHarness.Numeric.Decimal

/-!
# JSON text

Compact text: no spaces, members in the order they have, only the characters escaped that have to
be.
-/

namespace ClusterHarness

namespace Json

def hexDigit (n : Nat) : Char := Nat.digitChar (n % 16)

def escaped (c : Char) : List Char :=
  if c = '"' then ['\\', '"']
  else if c = '\\' then ['\\', '\\']
  else if c = '\n' then ['\\', 'n']
  else if c = '\r' then ['\\', 'r']
  else if c = '\t' then ['\\', 't']
  else if c = '\x08' then ['\\', 'b']
  else if c = '\x0c' then ['\\', 'f']
  else if c.toNat < 32 then ['\\', 'u', '0', '0', hexDigit (c.toNat / 16), hexDigit c.toNat]
  else [c]

def quoted (text : String) : String :=
  if text.any (fun c => c = '"' || c = '\\' || c.toNat < 32) then
    String.ofList ('"' :: (text.toList.flatMap escaped ++ ['"']))
  else "\"" ++ text ++ "\""

mutual

def compact : Json → String
  | .null => "null"
  | .bool true => "true"
  | .bool false => "false"
  | .int n => if n < 0 then "-" ++ Nat.repr n.natAbs else Nat.repr n.natAbs
  | .float x => x.scientific
  | .str s => quoted s
  | .arr items => "[" ++ compactItems items ++ "]"
  | .obj members => "\x7b" ++ compactMembers members ++ "\x7d"

def compactItems : List Json → String
  | [] => ""
  | [item] => compact item
  | item :: rest => compact item ++ "," ++ compactItems rest

def compactMembers : List (String × Json) → String
  | [] => ""
  | [(name, value)] => quoted name ++ ":" ++ compact value
  | (name, value) :: rest => quoted name ++ ":" ++ compact value ++ "," ++ compactMembers rest

end

end Json

end ClusterHarness
