import ClusterHarness.Text.Hidden

/-!
# Quoted names

The spelling of names in messages: between double quotes, with backslash escapes for quotes,
backslashes and the usual controls, and code points in braces for every other character that has
no visible form.
-/

namespace ClusterHarness

namespace Quoted

/-- A code point in hexadecimal, as `\u{1b}`. -/
def codePoint (c : Char) : List Char :=
  '\\' :: 'u' :: '\x7b' :: (Nat.toDigits 16 c.toNat ++ ['\x7d'])

def encodeChar (c : Char) : List Char :=
  if c = '\x00' then ['\\', '0']
  else if c = '\t' then ['\\', 't']
  else if c = '\r' then ['\\', 'r']
  else if c = '\n' then ['\\', 'n']
  else if c = '"' then ['\\', '"']
  else if c = '\\' then ['\\', '\\']
  else if isHidden c then codePoint c
  else [c]

def encode (text : String) : String :=
  String.ofList ('"' :: (text.toList.flatMap encodeChar ++ ['"']))

end Quoted

end ClusterHarness
