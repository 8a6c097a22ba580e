import ClusterHarness.Regex.Basic

/-!
# How search patterns are written

The usual form: alternatives by `|`, repetitions by `*`, `+`, `?` and counts in braces, classes in
brackets with nested classes and set operations, groups with and without a name, and flags.  Looking
around and back references are refused.
-/

namespace ClusterHarness

namespace Regex

structure Flags where
  anyCase : Bool := false
  multiLine : Bool := false
  dotAll : Bool := false
  spaced : Bool := false
  ascii : Bool := false

def Flags.set (on : Bool) (flags : Flags) : Char → Option Flags
  | 'i' => some { flags with anyCase := on }
  | 'm' => some { flags with multiLine := on }
  | 's' => some { flags with dotAll := on }
  | 'x' => some { flags with spaced := on }
  | 'u' => some { flags with ascii := !on }
  | 'U' | 'R' => some flags
  | _ => none

/-- Sets the flags that are written, those after a hyphen off; none twice, and some after the
hyphen. -/
def Flags.setAll : List Char → Bool → List Char → Flags → Option Flags
  | [], _, _, flags => some flags
  | '-' :: rest, on, seen, flags =>
    if on ∧ ¬ rest.isEmpty then Flags.setAll rest false seen flags else none
  | c :: rest, on, seen, flags => do
    if seen.contains c then none
    else Flags.setAll rest on (c :: seen) (← Flags.set on flags c)

/-- A character in the case that the flags ask for. -/
def Flags.chars (flags : Flags) (set : CharSet) : Regex :=
  .one (if flags.anyCase then .anyCase set else set)

/-- What is still to read, and the names that groups have so far. -/
structure Source where
  rest : List Char
  names : List String

/-- A reader of patterns: it fails without saying why. -/
abbrev Reader (α : Type) := StateT Source Option α

namespace Reader

def next? : Reader (Option Char) := do return (← get).rest.head?

def rest : Reader (List Char) := do return (← get).rest

def drop (n : Nat) : Reader Unit := modify fun s => { s with rest := s.rest.drop n }

/-- The next character; there has to be one. -/
def take : Reader Char := do
  match (← get).rest with
  | c :: rest =>
    modify fun s => { s with rest }
    return c
  | [] => failure

/-- Reads a text if it comes next. -/
def takeIf (text : String) : Reader Bool := do
  if text.toList.isPrefixOf (← rest) then
    drop text.length
    return true
  else return false

/-- Reads characters of a kind. -/
def takeWhile (p : Char → Bool) : Reader (List Char) := do
  let text := (← rest).takeWhile p
  drop text.length
  return text

/-- What is left after blanks and comments. -/
def afterSpace : List Char → Bool → List Char
  | [], _ => []
  | c :: rest, true => afterSpace rest (c != '\n')
  | c :: rest, false =>
    if isBlank c then afterSpace rest false
    else if c = '#' then afterSpace rest true
    else c :: rest

/-- Skips blanks and comments where the flags say so. -/
def skipSpace (flags : Flags) : Reader Unit := do
  if flags.spaced then modify fun s => { s with rest := afterSpace s.rest false }

/-- A decimal number below 2^32, which may have blanks around it. -/
def decimal : Reader Nat := do
  let _ ← takeWhile isBlank
  let digits ← takeWhile Char.isDigit
  let _ ← takeWhile isBlank
  let n := digits.foldl (fun n c => n * 10 + (c.toNat - '0'.toNat)) 0
  if digits.isEmpty ∨ Nat.pow 2 32 ≤ n then failure else return n

def hexValue? (c : Char) : Option Nat :=
  if c.isDigit then some (c.toNat - '0'.toNat)
  else if 'a' ≤ c ∧ c ≤ 'f' then some (c.toNat - 'a'.toNat + 10)
  else if 'A' ≤ c ∧ c ≤ 'F' then some (c.toNat - 'A'.toNat + 10)
  else none

/-- The character of a number in hexadecimal digits. -/
def ofHex (digits : List Char) : Reader Char := do
  let mut n := 0
  for c in digits do
    match hexValue? c with
    | some d => n := n * 16 + d
    | none => failure
  if digits.isEmpty then failure
  else if n < 0xd800 ∨ 0xdfff < n ∧ n < 0x110000 then return Char.ofNat n
  else failure

/-- The character after an escape by number: in braces, or as many digits as the sign tells. -/
def hexEscape (count : Nat) : Reader Char := do
  if ← takeIf "\x7b" then
    let digits ← takeWhile (· != '\x7d')
    if ← takeIf "\x7d" then ofHex digits else failure
  else
    let digits := (← rest).take count
    if digits.length = count then
      drop count
      ofHex digits
    else failure

/-! ## Escapes -/

inductive Escape where
  | literal (c : Char)
  | set (set : CharSet)
  | look (place : Place)

/-- The characters that an escape makes ordinary. -/
def isEscapable (c : Char) : Bool :=
  c.toNat < 128 && !c.isAlphanum && c != '<' && c != '>'

/-- The kinds of word boundary that are named in braces. -/
def boundary (name : String) : Reader Place :=
  match name with
  | "start" => pure .wordStart
  | "end" => pure .wordEnd
  | "start-half" => pure .beforeWord
  | "end-half" => pure .afterWord
  | _ => failure

def signed (flags : Flags) (negated : Bool) (set : CharSet) : Reader Escape :=
  if negated then
    if flags.ascii then failure else pure (.set (.complement set))
  else pure (.set set)

/-- The property after `\p` or `\P`. -/
def property (flags : Flags) (negated : Bool) : Reader Escape := do
  let name ← if ← takeIf "\x7b" then
      let name ← takeWhile (· != '\x7d')
      if ← takeIf "\x7d" then pure name else failure
    else
      let c ← take
      pure [c]
  let (name, negated) := match name with
    | '^' :: name => (name, !negated)
    | name => (name, negated)
  match CharSet.property? (String.ofList name) with
  | some set => if flags.ascii then failure else signed flags negated set
  | none => failure

def escape (flags : Flags) : Reader Escape := do
  let c ← take
  match c with
  | 'x' => return .literal (← hexEscape 2)
  | 'u' => return .literal (← hexEscape 4)
  | 'U' => return .literal (← hexEscape 8)
  | 'p' => property flags false
  | 'P' => property flags true
  | 'd' => signed flags false .digit
  | 'D' => signed flags true .digit
  | 's' => signed flags false .blank
  | 'S' => signed flags true .blank
  | 'w' => signed flags false .word
  | 'W' => signed flags true .word
  | 'a' => return .literal '\x07'
  | 'f' => return .literal '\x0c'
  | 't' => return .literal '\t'
  | 'n' => return .literal '\n'
  | 'r' => return .literal '\r'
  | 'v' => return .literal '\x0b'
  | 'A' => return .look .textStart
  | 'z' => return .look .textEnd
  | 'B' => return .look .noWordBoundary
  | '<' => return .look .wordStart
  | '>' => return .look .wordEnd
  | 'b' =>
    match ← rest with
    | '\x7b' :: c :: _ =>
      if c.isAlpha || c = '-' then
        drop 1
        let name ← takeWhile fun c => c.isAlpha || c == '-'
        if ← takeIf "\x7d" then return .look (← boundary (String.ofList name)) else failure
      else return .look .wordBoundary
    | _ => return .look .wordBoundary
  | c => if isEscapable c then return .literal c else failure

/-! ## Classes -/

def classItem (flags : Flags) : Reader Escape := do
  let c ← take
  if c = '\\' then
    match ← escape flags with
    | .look _ => failure
    | item => return item
  else return .literal c

def posixClass? (flags : Flags) : Reader (Option CharSet) := do
  let all ← rest
  if ← takeIf "[:" then
    let negated ← takeIf "^"
    let name ← takeWhile Char.isAlpha
    match CharSet.posix? (String.ofList name), ← takeIf ":]" with
    | some set, true =>
      if negated then
        if flags.ascii then failure else return some (.complement set)
      else return some set
    | _, _ =>
      modify fun s => { s with rest := all }
      return none
  else return none

/-- A character, a class by an escape, or a range of characters. -/
def classRange (flags : Flags) : Reader CharSet := do
  let first ← classItem flags
  skipSpace flags
  let apart := match (← rest) with
    | '-' :: rest =>
      let rest := if flags.spaced then afterSpace rest false else rest
      rest.head? == some ']' || rest.head? == some '-'
    | _ => true
  match first with
  | .literal c =>
    if apart then return .single c
    else
      drop 1
      skipSpace flags
      match ← classItem flags with
      | .literal last => if c ≤ last then return .range c last else failure
      | _ => failure
  | .set set => if apart then return set else failure
  | .look _ => failure

/-- The ways to join what stands on both sides of an operator. -/
def operators : List (String × (CharSet → CharSet → CharSet)) :=
  [("&&", .inter), ("--", fun a b => .inter a (.complement b)),
    ("~~", fun a b => .union (.inter a (.complement b)) (.inter b (.complement a)))]

def operator? : Reader (Option (CharSet → CharSet → CharSet)) := do
  let all ← rest
  match operators.find? fun op => op.1.toList.isPrefixOf all with
  | some (_, join) =>
    drop 2
    return some join
  | none => return none

def closeClass (flags : Flags) (negated : Bool) (set : CharSet) : Reader CharSet :=
  let set := if flags.anyCase then .anyCase set else set
  if negated then
    if flags.ascii then failure else pure (.complement set)
  else pure set

/-- Reads the signs that are ordinary at the start of a class: hyphens, and a bracket if no hyphen
stands before it. -/
def classStart : Reader CharSet := do
  let hyphens ← takeWhile (· == '-')
  if hyphens.isEmpty then
    if ← takeIf "]" then return .single ']' else return .none
  else return .single '-'

mutual

def bracket (flags : Flags) : Nat → Reader CharSet
  | 0 => failure
  | n + 1 => do
    skipSpace flags
    let negated ← takeIf "^"
    skipSpace flags
    let start ← classStart
    closeClass flags negated (← classBody flags id start n)

/-- The rest of a class: `join` joins what stands before the last operator with what follows it, of
which `set` is read. -/
def classBody (flags : Flags) (join : CharSet → CharSet) (set : CharSet) : Nat → Reader CharSet
  | 0 => failure
  | n + 1 => do
    skipSpace flags
    if ← takeIf "]" then return join set
    match ← posixClass? flags with
    | some item => classBody flags join (.union set item) n
    | none =>
      match ← operator? with
      | some op => classBody flags (op (join set)) .none n
      | none =>
        if ← takeIf "[" then
          let inner ← bracket flags n
          classBody flags join (.union set inner) n
        else
          let item ← classRange flags
          classBody flags join (.union set item) n

end

/-! ## Groups -/

def isGroupName : List Char → Bool
  | [] => false
  | c :: rest => (c.isAlpha || c == '_')
    && rest.all fun c => c.isAlphanum || c == '_' || c == '.' || c == '[' || c == ']'

/-- The name of a group, up to its closing angle; no two groups have one. -/
def groupName : Reader Unit := do
  let name ← takeWhile (· != '>')
  let text := String.ofList name
  if (← takeIf ">") && isGroupName name && !(← get).names.contains text then
    modify fun s => { s with names := text :: s.names }
  else failure

inductive Opening where
  /-- A group that is read with these flags. -/
  | group (flags : Flags)
  /-- Flags for the rest of the group around. -/
  | flags (flags : Flags)

/-- Reads what follows an opening parenthesis and says what it is. -/
def opening (flags : Flags) : Reader Opening := do
  skipSpace flags
  if "?=".toList.isPrefixOf (← rest) || "?!".toList.isPrefixOf (← rest)
      || "?<=".toList.isPrefixOf (← rest) || "?<!".toList.isPrefixOf (← rest) then failure
  if (← takeIf "?P<") || (← takeIf "?<") then
    groupName
    return .group flags
  if ← takeIf "?" then
    let signs ← takeWhile fun c => c != ')' && c != ':'
    match Flags.setAll signs true [] flags, ← take with
    | some flags, ':' => return .group flags
    | some flags, _ => if signs.isEmpty then failure else return .flags flags
    | none, _ => failure
  return .group flags

/-! ## Patterns -/

/-- A single piece that is no group, class or repetition. -/
def piece (flags : Flags) : Reader Regex := do
  match ← take with
  | '\\' =>
    match ← escape flags with
    | .literal c => return flags.chars (.single c)
    | .set set => return flags.chars set
    | .look place => return .look place
  | '.' =>
    if flags.ascii then failure
    return .one (if flags.dotAll then .any else .complement (.single '\n'))
  | '^' => return .look (if flags.multiLine then .lineStart else .textStart)
  | '$' => return .look (if flags.multiLine then .lineEnd else .textEnd)
  | c => return flags.chars (.single c)

/-- The counts in braces, after the opening one. -/
def counts : Reader (Nat × Option Nat) := do
  let least ← decimal
  let most ← if ← takeIf "," then
      let _ ← takeWhile isBlank
      if (← next?) = some '\x7d' then pure none else some <$> decimal
    else pure (some least)
  if (← takeIf "\x7d") && most.all (least ≤ ·) then return (least, most) else failure

/-- How often the piece before is to come, if a sign for it is next. -/
def repetition? (flags : Flags) : Reader (Option (Nat × Option Nat)) := do
  let found ← if ← takeIf "*" then pure (some (0, none))
    else if ← takeIf "+" then pure (some (1, none))
    else if ← takeIf "?" then pure (some (0, some 1))
    else if ← takeIf "\x7b" then some <$> counts
    else pure none
  if found.isSome then
    skipSpace flags
    let _ ← takeIf "?"
  return found

/-- What is read of a group: the alternatives before, and the pieces of the current one, the last
piece apart, as a repetition can follow it. -/
structure Progress where
  flags : Flags
  before : Option Regex := none
  branch : Regex := .nothing
  last : Option Regex := none

def Progress.alternative (p : Progress) : Regex :=
  match p.last with
  | some last => .both p.branch last
  | none => p.branch

def Progress.whole (p : Progress) : Regex :=
  match p.before with
  | some before => .either before p.alternative
  | none => p.alternative

def Progress.push (p : Progress) (piece : Regex) : Progress :=
  { p with branch := p.alternative, last := some piece }

/-- Reads to the end of a group.  Each turn reads at least one character. -/
def body (p : Progress) : Nat → Reader Regex
  | 0 => failure
  | n + 1 => do
    skipSpace p.flags
    match ← next? with
    | none => return p.whole
    | some ')' => return p.whole
    | some '|' =>
      drop 1
      body { flags := p.flags, before := some p.whole } n
    | some '(' =>
      drop 1
      match ← opening p.flags with
      | .flags flags => body { p with flags, branch := p.alternative, last := none } n
      | .group flags =>
        let inner ← body { flags } n
        if ← takeIf ")" then body (p.push inner) n else failure
    | some '[' =>
      drop 1
      let set ← bracket p.flags n
      body (p.push (.one set)) n
    | some _ =>
      match ← repetition? p.flags, p.last with
      | some (least, most), some last => body { p with last := some (.times last least most) } n
      | some _, none => failure
      | none, _ =>
        let piece ← piece p.flags
        body (p.push piece) n

end Reader

def mostSteps : Nat := 327680

/-- The pattern that a text writes, if it writes one that is not too large. -/
def ofText? (text : String) : Option Regex := do
  let (pattern, source) ← (Reader.body { flags := {} } (text.length + 2)).run ⟨text.toList, []⟩
  if source.rest.isEmpty ∧ pattern.size ≤ mostSteps then some pattern else none

end Regex

end ClusterHarness
