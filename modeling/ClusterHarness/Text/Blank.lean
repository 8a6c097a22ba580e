/-!
# Blanks, trimming and splitting

Blanks are the characters with the Unicode property `White_Space`.  Texts are lists of characters
here, so that the laws of splitting and trimming are laws of lists.
-/

namespace ClusterHarness

/-- The code points with the property `White_Space`. -/
def isBlank (c : Char) : Bool :=
  let code := c.toNat
  (9 ≤ code && code ≤ 13) || code = 0x20 || code = 0x85 || code = 0xa0 || code = 0x1680
    || (0x2000 ≤ code && code ≤ 0x200a) || code = 0x2028 || code = 0x2029 || code = 0x202f
    || code = 0x205f || code = 0x3000

namespace Text

def dropEndWhile (p : Char → Bool) (text : List Char) : List Char :=
  (text.reverse.dropWhile p).reverse

def trim (text : List Char) : List Char := dropEndWhile isBlank (text.dropWhile isBlank)

/-- The pieces between separators, one more than there are separators. -/
def split (separator : Char) : List Char → List (List Char)
  | [] => [[]]
  | c :: rest =>
    if c = separator then [] :: split separator rest
    else match split separator rest with
      | [] => [[c]]
      | piece :: pieces => (c :: piece) :: pieces

def join (separator : Char) : List (List Char) → List Char
  | [] => []
  | [piece] => piece
  | piece :: pieces => piece ++ separator :: join separator pieces

/-- The text before and after the first separator. -/
def cut (separator : Char) (text : List Char) : Option (List Char × List Char) :=
  match text.dropWhile (· ≠ separator) with
  | [] => none
  | _ :: rest => some (text.takeWhile (· ≠ separator), rest)

def contains (part : List Char) : List Char → Bool
  | [] => part.isEmpty
  | c :: rest => part.isPrefixOf (c :: rest) || contains part rest

def dropCarriageReturn (line : List Char) : List Char :=
  if line.getLast? = some '\r' then line.dropLast else line

/-- The lines of a text: each ends at a line feed, which may follow a carriage return; what
follows the last line feed is a line unless it is empty. -/
def lines (text : List Char) : List (List Char) :=
  let pieces := split '\n' text
  let ended := pieces.dropLast.map dropCarriageReturn
  match pieces.getLast? with
  | some [] => ended
  | some rest => ended ++ [rest]
  | none => ended

end Text

namespace Text

def trimmed (text : String) : String := String.ofList (trim text.toList)

def hasPart (part text : String) : Bool := contains part.toList text.toList

end Text

end ClusterHarness
