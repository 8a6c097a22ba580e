import ClusterHarness.Text.Blank

/-!
# Sets of characters

The classes of a search pattern: ranges, and what union, intersection and complement make of them.
The named classes are those of ASCII, except that blanks are all characters of blank space: what is
searched are names of repositories, which hold ASCII letters, digits, hyphens, dots and underscores.
-/

namespace ClusterHarness

inductive CharSet where
  | none
  | range (first last : Char)
  | blank
  | union (a b : CharSet)
  | inter (a b : CharSet)
  | complement (a : CharSet)
  /-- The set with both cases of each of its letters. -/
  | anyCase (a : CharSet)
  deriving DecidableEq, Repr

namespace CharSet

/-- The characters that differ from this one by case only: the other letter, and the two letters
beyond ASCII that have an ASCII letter as their other case. -/
def caseMates (c : Char) : List Char :=
  if c = 'k' ∨ c = 'K' then ['k', 'K', '\u212a']
  else if c = 's' ∨ c = 'S' then ['s', 'S', '\u017f']
  else if c = '\u212a' then ['k', 'K']
  else if c = '\u017f' then ['s', 'S']
  else [c.toLower, c.toUpper]

def contains : CharSet → Char → Bool
  | none, _ => false
  | range first last, c => first ≤ c && c ≤ last
  | blank, c => isBlank c
  | union a b, c => a.contains c || b.contains c
  | inter a b, c => a.contains c && b.contains c
  | complement a, c => !a.contains c
  | anyCase a, c => a.contains c || (caseMates c).any a.contains

def single (c : Char) : CharSet := range c c

def any : CharSet := complement none

def unions : List CharSet → CharSet
  | [] => none
  | a :: rest => union a (unions rest)

def ofText (text : String) : CharSet := unions (text.toList.map single)

def digit : CharSet := range '0' '9'

def lower : CharSet := range 'a' 'z'

def upper : CharSet := range 'A' 'Z'

def letter : CharSet := union lower upper

/-- Letters, digits and the underscore. -/
def word : CharSet := unions [letter, digit, single '_']

def control : CharSet := union (range '\x00' '\x1f') (single '\x7f')

/-- The signs that are punctuation by their general category. -/
def punctuation : CharSet := ofText "!\"#%&'()*,-./:;?@[\\]_\x7b\x7d"

/-- The signs that are symbols by their general category. -/
def symbol : CharSet := ofText "$+<=>^\x60|~"

/-- The classes that are named between colons. -/
def posix? : String → Option CharSet
  | "alnum" => some (union letter digit)
  | "alpha" => some letter
  | "ascii" => some (range '\x00' '\x7f')
  | "blank" => some (ofText "\t ")
  | "cntrl" => some control
  | "digit" => some digit
  | "graph" => some (range '!' '~')
  | "lower" => some lower
  | "print" => some (range ' ' '~')
  | "punct" => some (union punctuation symbol)
  | "space" => some (union (range '\t' '\r') (single ' '))
  | "upper" => some upper
  | "word" => some word
  | "xdigit" => some (unions [digit, range 'a' 'f', range 'A' 'F'])
  | _ => Option.none

/-- The classes that are named by a property; a name counts without its case, blanks, hyphens and
underscores. -/
def property? (name : String) : Option CharSet :=
  let plain := (name.toList.filter fun c => !(isBlank c || c == '-' || c == '_')).map Char.toLower
  match String.ofList plain with
  | "l" | "letter" | "alpha" | "alphabetic" => some letter
  | "lu" | "uppercaseletter" | "upper" | "uppercase" => some upper
  | "ll" | "lowercaseletter" | "lower" | "lowercase" => some lower
  | "n" | "number" | "nd" | "decimalnumber" | "digit" => some digit
  | "p" | "punctuation" | "punct" => some punctuation
  | "s" | "symbol" => some symbol
  | "z" | "separator" | "zs" | "spaceseparator" => some (single ' ')
  | "cc" | "control" | "cntrl" => some control
  | "whitespace" | "space" => some blank
  | "ascii" => some (range '\x00' '\x7f')
  | "any" => some any
  | _ => Option.none

end CharSet

end ClusterHarness
