import ClusterHarness.Yaml.Text

/-!
# Tokens of YAML

Indentation becomes tokens that open and close block collections.  A key is only known by the colon
after it, so each place where a key may begin is a slot among the tokens, which the colon fills.
-/

namespace ClusterHarness

namespace Yaml

inductive Token where
  | version
  | tagPrefix (handle lead : List Char)
  | documentStart
  | documentEnd
  | blockSequence
  | blockMapping
  | blockEnd
  | flowSequence
  | flowSequenceEnd
  | flowMapping
  | flowMappingEnd
  | blockEntry
  | flowEntry
  | key
  | value
  | alias (name : List Char)
  | anchor (name : List Char)
  | tag (handle suffix : List Char)
  | scalar (plain : Bool) (text : List Char)
  deriving DecidableEq, Repr

/-- Where a key may have begun: its slot among the tokens and its place in the text.  At the
indentation of a block mapping nothing else than a key may stand. -/
structure PendingKey where
  slot : Nat
  line : Nat
  column : Nat
  index : Nat
  required : Bool

/-- A text read up to some place.  `keys` has the pending key of each level of flow collections,
innermost first, and `indents` the columns of the open block collections. -/
structure Scanner where
  rest : List Char
  line : Nat
  column : Nat
  index : Nat
  slots : Array (List Token)
  indents : List Nat
  keys : List (Option PendingKey)
  keyAllowed : Bool

namespace Scanner

def start (text : List Char) : Scanner := ⟨text, 0, 0, 0, #[], [], [none], true⟩

def inFlow (s : Scanner) : Bool := 1 < s.keys.length

def pending (s : Scanner) : Option PendingKey := s.keys.head?.join

def setPending (s : Scanner) (key : Option PendingKey) : Scanner :=
  { s with keys := key :: s.keys.tail }

def push (s : Scanner) (token : Token) : Scanner := { s with slots := s.slots.push [token] }

def forbidKey (s : Scanner) : Scanner := { s with keyAllowed := false }

def allowKey (s : Scanner) : Scanner := { s with keyAllowed := true }

def advance (s : Scanner) (c : Char) : Scanner :=
  if isBreak c then { s with line := s.line + 1, column := 0, index := s.index + 1 }
  else { s with column := s.column + 1, index := s.index + 1 }

/-- Moves on to where `rest` is left of the text. -/
def moveTo (s : Scanner) (rest : List Char) : Scanner :=
  { (s.rest.take (s.rest.length - rest.length)).foldl advance s with rest }

def skip (s : Scanner) (count : Nat) : Scanner := s.moveTo (s.rest.drop count)

/-! ## Keys -/

/-- How far a key may stand before its colon. -/
def keyReach : Nat := 1024

/-- Whether a colon can no longer belong to a key. -/
def isStale (s : Scanner) (key : PendingKey) : Bool :=
  key.line < s.line || key.index + keyReach < s.index

/-- Gives up the pending key, unless one has to be there. -/
def dropKey (s : Scanner) : Option Scanner :=
  match s.pending with
  | some key => if key.required then none else some (s.setPending none)
  | none => some s

def dropStale (s : Scanner) : Option Scanner := do
  let keys ← s.keys.mapM fun
    | none => some none
    | some key =>
      if s.isStale key then if key.required then none else some none else some (some key)
  return { s with keys }

/-- Notes that a key may begin here. -/
def noteKey (s : Scanner) : Option Scanner :=
  if s.keyAllowed then do
    let s ← s.dropKey
    let key : PendingKey :=
      { slot := s.slots.size, line := s.line, column := s.column, index := s.index
        required := !s.inFlow && s.indents.head? = some s.column }
    return { s.setPending (some key) with slots := s.slots.push [] }
  else some s

/-! ## Indentation -/

def opensAt (s : Scanner) (column : Nat) : Bool :=
  !s.inFlow && s.indents.head?.all (· < column)

/-- Opens a block collection at the current column, if it is indented further. -/
def openBlock (s : Scanner) (token : Token) : Scanner :=
  if s.opensAt s.column then { s.push token with indents := s.column :: s.indents } else s

/-- Closes the block collections that are indented further than `stays` allows. -/
def closeBlocks (s : Scanner) (stays : Nat → Bool) : Scanner :=
  if s.inFlow then s
  else
    let closed := s.indents.takeWhile (¬stays ·)
    { s with
      indents := s.indents.dropWhile (¬stays ·)
      slots := s.slots ++ (closed.map fun _ => [Token.blockEnd]).toArray }

def closeAllBlocks (s : Scanner) : Scanner := s.closeBlocks fun _ => false

/-! ## Blanks -/

/-- Skips blanks and comments; after a line break in a block a key may begin. -/
def skipBlanks (flow keyAllowed comment : Bool) : List Char → Bool × List Char
  | [] => (keyAllowed, [])
  | c :: rest =>
    if isBreak c then skipBlanks flow (keyAllowed || !flow) false rest
    else if comment then skipBlanks flow keyAllowed true rest
    else if c = ' ' ∨ (c = '\t' ∧ (flow ∨ !keyAllowed)) then skipBlanks flow keyAllowed false rest
    else if c = '#' then skipBlanks flow keyAllowed true rest
    else (keyAllowed, c :: rest)

/-- Moves on to the next token, giving up stale keys and closing blocks on the way. -/
def toToken (s : Scanner) : Option Scanner := do
  let (keyAllowed, rest) := skipBlanks s.inFlow s.keyAllowed false s.rest
  let s ← ({ s.moveTo rest with keyAllowed }).dropStale
  return s.closeBlocks (· ≤ s.column)

/-! ## Names and tags -/

def isNameChar (c : Char) : Bool := c.isAlphanum || c = '_' || c = '-'

def name? (text : List Char) : Option (List Char × List Char) :=
  let name := text.takeWhile isNameChar
  let rest := text.dropWhile isNameChar
  if name.isEmpty then none
  else if startsBlank rest || rest.head?.any fun c => "?:,]\x7d%@\x60".toList.contains c then
    some (name, rest)
  else none

def isTagChar (verbatim : Bool) (c : Char) : Bool :=
  isNameChar c || ";/?:@&=+$.!~*'()%".toList.contains c
    || (verbatim && (c = ',' || c = '[' || c = ']'))

def decodeTag? (text : List Char) : Option (List Char) :=
  (Utf8.decode (Target.unescape text)).toOption.map String.toList

def tag? (text : List Char) : Option (List Char × List Char × List Char) :=
  match text with
  | '!' :: '<' :: rest =>
    match rest.takeWhile (isTagChar true), rest.dropWhile (isTagChar true) with
    | [], _ => none
    | tag, '>' :: rest => (decodeTag? tag).map fun tag => ([], tag, rest)
    | _, _ => none
  | '!' :: rest =>
    let word := rest.takeWhile isNameChar
    let after := rest.dropWhile isNameChar
    match after with
    | '!' :: after =>
      let suffix := after.takeWhile (isTagChar false)
      if suffix.isEmpty then none
      else (decodeTag? suffix).map fun suffix =>
        ('!' :: (word ++ ['!']), suffix, after.dropWhile (isTagChar false))
    | after =>
      (decodeTag? (word ++ after.takeWhile (isTagChar false))).map fun suffix =>
        if suffix.isEmpty then ([], ['!'], after)
        else (['!'], suffix, after.dropWhile (isTagChar false))
  | _ => none

def directive? (words : List (List Char)) : Option Token :=
  match words.map String.ofList with
  | ["YAML", "1.1"] | ["YAML", "1.2"] => some .version
  | ["TAG", handle, lead] =>
    if handle.startsWith "!" ∧ handle.endsWith "!" then
      (decodeTag? lead.toList).map fun lead => .tagPrefix handle.toList lead
    else none
  | _ => none

def words (line : List Char) : List (List Char) :=
  ((Text.split ' ' (line.map fun c => if c = '\t' then ' ' else c)).filter (¬·.isEmpty)).takeWhile
    (·.head? ≠ some '#')

/-! ## Tokens -/

/-- A directive, a mark between documents, or the end: all block collections end before. -/
def atMargin (s : Scanner) : Option Scanner := s.closeAllBlocks.dropKey.map forbidKey

def flowStart (s : Scanner) (token : Token) : Option Scanner := do
  let s ← s.noteKey
  return (({ s with keys := none :: s.keys }.allowKey).push token).skip 1

def flowEnd (s : Scanner) (token : Token) : Option Scanner := do
  let s ← s.dropKey
  let keys := if s.inFlow then s.keys.tail else s.keys
  return (({ s with keys }.forbidKey).push token).skip 1

def flowEntry (s : Scanner) : Option Scanner := do
  return ((← s.dropKey).allowKey.push .flowEntry).skip 1

def blockEntry (s : Scanner) : Option Scanner :=
  if !s.inFlow && !s.keyAllowed then none
  else do return ((← (s.openBlock .blockSequence).dropKey).allowKey.push .blockEntry).skip 1

def explicitKey (s : Scanner) : Option Scanner :=
  if !s.inFlow && !s.keyAllowed then none
  else do
    let s ← (s.openBlock .blockMapping).dropKey
    return ({ s with keyAllowed := !s.inFlow }.push .key).skip 1

def valueMark (s : Scanner) : Option Scanner :=
  match s.pending with
  | some key =>
    let opens := s.opensAt key.column
    let s := { s.setPending none with
      slots := s.slots.setIfInBounds key.slot (if opens then [.blockMapping, .key] else [.key])
      indents := if opens then key.column :: s.indents else s.indents }
    some ((s.forbidKey.push .value).skip 1)
  | none =>
    if !s.inFlow && !s.keyAllowed then none
    else
      let s := s.openBlock .blockMapping
      some (({ s with keyAllowed := !s.inFlow }.push .value).skip 1)

def named (s : Scanner) (token : List Char → Token) : Option Scanner := do
  let s ← s.noteKey
  let (name, rest) ← name? (s.rest.drop 1)
  return (s.forbidKey.push (token name)).moveTo rest

def tagToken (s : Scanner) : Option Scanner := do
  let s ← s.noteKey
  let (handle, suffix, rest) ← tag? s.rest
  if startsBlank rest || (s.inFlow && rest.head? = some ',') then
    return (s.forbidKey.push (.tag handle suffix)).moveTo rest
  else none

def blockScalar (s : Scanner) (folded : Bool) : Option Scanner := do
  let s ← s.dropKey
  let (text, rest) ← blockScalar? folded s.indents.head? (s.rest.drop 1)
  return (s.allowKey.push (.scalar false text)).moveTo rest

def quotedScalar (s : Scanner) (double : Bool) : Option Scanner := do
  let s ← s.noteKey
  let (text, rest) ← quotedFrom double Gap.none [] (s.rest.drop 1)
  return (s.forbidKey.push (.scalar false text)).moveTo rest

def plainScalar (s : Scanner) : Option Scanner := do
  let s ← s.noteKey
  let indent := (s.indents.head?.map (· + 1)).getD 0
  let plain ← plainFrom s.inFlow indent Gap.none s.column [] s.rest
  let s := (s.forbidKey.push (.scalar true plain.text)).moveTo plain.rest
  return { s with keyAllowed := plain.broken }

/-- Whether a plain scalar may begin with a character, given what follows it. -/
def startsPlain (flow : Bool) (c : Char) (rest : List Char) : Bool :=
  !isSpaceOrBreak c && (!("-?:,[]\x7b\x7d#&*!|>'\"%@\x60".toList.contains c)
    || (c = '-' && !(rest.head?.any isSpace))
    || (!flow && (c = '?' || c = ':') && !startsBlank rest))

def token (s : Scanner) : Option Scanner :=
  match s.rest with
  | [] => s.atMargin
  | c :: rest =>
    let atStart := s.column = 0
    let separate := s.inFlow || startsBlank rest
    if atStart && c = '%' then do
      let s ← s.atMargin
      let token ← directive? (words (rest.takeWhile (¬isBreak ·)))
      return (s.push token).moveTo (rest.dropWhile (¬isBreak ·))
    else if atStart && startsDocument s.rest then do
      return ((← s.atMargin).push .documentStart).skip 3
    else if atStart && endsDocument s.rest then do
      return ((← s.atMargin).push .documentEnd).skip 3
    else if c = '[' then s.flowStart .flowSequence
    else if c = '\x7b' then s.flowStart .flowMapping
    else if c = ']' then s.flowEnd .flowSequenceEnd
    else if c = '\x7d' then s.flowEnd .flowMappingEnd
    else if c = ',' then s.flowEntry
    else if c = '-' ∧ startsBlank rest then s.blockEntry
    else if c = '?' ∧ separate then s.explicitKey
    else if c = ':' ∧ separate then s.valueMark
    else if c = '*' then s.named .alias
    else if c = '&' then s.named .anchor
    else if c = '!' then s.tagToken
    else if c = '|' ∧ !s.inFlow then s.blockScalar false
    else if c = '>' ∧ !s.inFlow then s.blockScalar true
    else if c = '\'' then s.quotedScalar false
    else if c = '"' then s.quotedScalar true
    else if startsPlain s.inFlow c rest then s.plainScalar
    else none

/-- Reads tokens to the end, at most so many. -/
def run : Nat → Scanner → Option Scanner
  | 0, _ => none
  | fuel + 1, s => do
    let s ← s.toToken
    if s.rest.isEmpty then s.token else run fuel (← s.token)

end Scanner

def Token.ofText? (text : List Char) : Option (List Token) :=
  let text := if text.head? = some '\ufeff' then text.drop 1 else text
  if text.all isAllowed then
    (Scanner.run (text.length + 1) (Scanner.start (unifyBreaks text))).map fun s =>
      s.slots.toList.flatten
  else none

end Yaml

end ClusterHarness
