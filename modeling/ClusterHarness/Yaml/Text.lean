import ClusterHarness.Http.Target

/-!
# Characters of YAML

Line breaks of all kinds are read as line feeds, except for the two separators of Unicode, which
stay what they are.
-/

namespace ClusterHarness

namespace Yaml

/-- Whether a character may occur in a document. -/
def isAllowed (c : Char) : Bool :=
  let n := c.toNat
  n = 0x09 || n = 0x0a || n = 0x0d || (0x20 ≤ n && n ≤ 0x7e) || n = 0x85
    || (0xa0 ≤ n && n ≤ 0xd7ff) || (0xe000 ≤ n && n ≤ 0xfffd) || 0x10000 ≤ n

def isSpace (c : Char) : Bool := c = ' ' || c = '\t'

def isBreak (c : Char) : Bool := c = '\n' || c = '\u2028' || c = '\u2029'

def isSpaceOrBreak (c : Char) : Bool := isSpace c || isBreak c

/-- Whether a text ends or goes on with a space or a break. -/
def startsBlank : List Char → Bool
  | [] => true
  | c :: _ => isSpaceOrBreak c

/-- Every line break as a line feed. -/
def unifyBreaks : List Char → List Char
  | '\r' :: '\n' :: rest => '\n' :: unifyBreaks rest
  | c :: rest => (if c = '\r' ∨ c = '\u0085' then '\n' else c) :: unifyBreaks rest
  | [] => []

/-- Whether a line begins with one of the marks between documents. -/
def startsWithMark (mark : Char) : List Char → Bool
  | a :: b :: c :: rest => a = mark && b = mark && c = mark && startsBlank rest
  | _ => false

def startsDocument (line : List Char) : Bool := startsWithMark '-' line

def endsDocument (line : List Char) : Bool := startsWithMark '.' line

def isMarkLine (line : List Char) : Bool := startsDocument line || endsDocument line

/-! ## Folding -/

/-- What stands between two pieces of a scalar: spaces on one line, or line breaks.  A break that is
escaped does not count. -/
inductive Gap where
  | spaces (reversed : List Char)
  | breaks (first : Option Char) (reversed : List Char)

namespace Gap

def none : Gap := .spaces []

def isNone : Gap → Bool
  | .spaces [] => true
  | _ => false

def isBroken : Gap → Bool
  | .spaces _ => false
  | .breaks .. => true

/-- One more space; those beside a line break are dropped. -/
def addSpace (c : Char) : Gap → Gap
  | .spaces before => .spaces (c :: before)
  | gap => gap

def addBreak (c : Char) : Gap → Gap
  | .spaces _ => .breaks (some c) []
  | .breaks first before => .breaks first (c :: before)

/-- The gap in the text of a scalar, last character first: a single line feed is a space, and of
several the first is dropped. -/
def reversedText : Gap → List Char
  | .spaces before => before
  | .breaks (some '\n') [] => [' ']
  | .breaks (some '\n') before => before
  | .breaks (some c) before => before ++ [c]
  | .breaks Option.none before => before

end Gap

/-! ## Plain scalars -/

def flowIndicators : List Char := [',', '[', ']', '{', '}']

/-- A plain scalar read: its text, what follows, and whether a line break stands between. -/
structure Plain where
  text : List Char
  rest : List Char
  broken : Bool

/-- Reads a plain scalar; its continuation lines have to be indented by `indent` columns. -/
def plainFrom (flow : Bool) (indent : Nat) (gap : Gap) (column : Nat) (before : List Char) :
    List Char → Option Plain
  | [] => some ⟨before.reverse, [], gap.isBroken⟩
  | c :: rest =>
    if isSpace c then
      if gap.isBroken ∧ column < indent ∧ c = '\t' then none
      else plainFrom flow indent (gap.addSpace c) (column + 1) before rest
    else if isBreak c then plainFrom flow indent (gap.addBreak c) 0 before rest
    else if !gap.isNone && (c = '#' || column = 0 && isMarkLine (c :: rest)
        || gap.isBroken && !flow && column < indent) then
      some ⟨before.reverse, c :: rest, gap.isBroken⟩
    else if flow && c = ':' && rest.head?.any fun d => d = '?' || flowIndicators.contains d then
      none
    else if (c = ':' && startsBlank rest) || (flow && flowIndicators.contains c) then
      some ⟨before.reverse, c :: rest, gap.isBroken⟩
    else plainFrom flow indent Gap.none (column + 1) (c :: (gap.reversedText ++ before)) rest

/-! ## Quoted scalars -/

def escapeChar? : Char → Option Char
  | '0' => some '\x00'
  | 'a' => some '\x07'
  | 'b' => some '\x08'
  | 't' | '\t' => some '\t'
  | 'n' => some '\n'
  | 'v' => some '\x0b'
  | 'f' => some '\x0c'
  | 'r' => some '\r'
  | 'e' => some '\x1b'
  | ' ' => some ' '
  | '"' => some '"'
  | '/' => some '/'
  | '\\' => some '\\'
  | 'N' => some '\u0085'
  | '_' => some '\u00a0'
  | 'L' => some '\u2028'
  | 'P' => some '\u2029'
  | _ => none

/-- How many hexadecimal digits follow the letter of an escape. -/
def escapeDigits? : Char → Option Nat
  | 'x' => some 2
  | 'u' => some 4
  | 'U' => some 8
  | _ => none

/-- The character of a code that is no surrogate. -/
def charOfCode? (code : Nat) : Option Char :=
  if code.isValidChar then some (Char.ofNat code) else none

/-- The character whose code the first digits of a text spell. -/
def hexChar? (count : Nat) (text : List Char) : Option Char :=
  let digits := text.take count
  if digits.length = count then
    (digits.foldlM (fun n c => (Target.hexValue? c).map (16 * n + ·)) 0).bind charOfCode?
  else none

def quotedFrom (double : Bool) (gap : Gap) (before : List Char) (text : List Char) :
    Option (List Char × List Char) :=
  match text with
  | [] => none
  | c :: rest =>
    let flushed := gap.reversedText ++ before
    if isSpace c then quotedFrom double (gap.addSpace c) before rest
    else if isBreak c then
      if isMarkLine rest then none else quotedFrom double (gap.addBreak c) before rest
    else if double then
      match c, rest with
      | '"', rest => some (flushed.reverse, rest)
      | '\\', e :: rest =>
        if isBreak e then
          if isMarkLine rest then none
          else quotedFrom double (.breaks Option.none []) flushed rest
        else match escapeChar? e, escapeDigits? e with
          | some d, _ => quotedFrom double Gap.none (d :: flushed) rest
          | none, some count =>
            match hexChar? count rest with
            | some d => quotedFrom double Gap.none (d :: flushed) (rest.drop count)
            | none => none
          | none, none => none
      | '\\', [] => none
      | c, rest => quotedFrom double Gap.none (c :: flushed) rest
    else
      match c, rest with
      | '\'', '\'' :: rest => quotedFrom double Gap.none ('\'' :: flushed) rest
      | '\'', rest => some (flushed.reverse, rest)
      | c, rest => quotedFrom double Gap.none (c :: flushed) rest
  termination_by text.length
  decreasing_by all_goals simp_wf <;> omega

/-! ## Block scalars -/

inductive Chomping where
  | strip
  | clip
  | keep
  deriving DecidableEq

/-- The header of a block scalar: its chomping and its indentation, if given. -/
def blockHeader? (text : List Char) : Option (Chomping × Option Nat × List Char) :=
  let chomping? : Char → Option Chomping
    | '+' => some .keep
    | '-' => some .strip
    | _ => none
  let increment? (c : Char) : Option Nat :=
    if '1' ≤ c ∧ c ≤ '9' then some (c.toNat - '0'.toNat) else none
  match text with
  | a :: rest =>
    match chomping? a, increment? a with
    | some chomping, _ =>
      match rest with
      | b :: more =>
        match increment? b with
        | some n => some (chomping, some n, more)
        | none => if b = '0' then none else some (chomping, none, rest)
      | [] => some (chomping, none, [])
    | none, some n =>
      match rest with
      | b :: more =>
        match chomping? b with
        | some chomping => some (chomping, some n, more)
        | none => some (.clip, some n, rest)
      | [] => some (.clip, some n, [])
    | none, none => if a = '0' then none else some (.clip, none, text)
  | [] => some (.clip, none, [])

/-- Blank lines before a line of a block scalar: their breaks, the indentation seen, the column
reached, and what follows. -/
structure BlankLines where
  breaks : List Char
  widest : Nat
  column : Nat
  rest : List Char

/-- Skips indentation and blank lines; `indent` is not yet known if `none`. -/
def blankLines (indent : Option Nat) (column widest : Nat) (breaks : List Char) :
    List Char → Option BlankLines
  | [] => some ⟨breaks.reverse, max widest column, column, []⟩
  | c :: rest =>
    let inside := indent.all (column < ·)
    if c = ' ' ∧ inside then blankLines indent (column + 1) widest breaks rest
    else if c = '\t' ∧ inside then none
    else if isBreak c then blankLines indent 0 (max widest column) (c :: breaks) rest
    else some ⟨breaks.reverse, max widest column, column, c :: rest⟩

structure BlockText where
  reversed : List Char
  /-- The break that ended the last line. -/
  lineBreak : List Char
  /-- Breaks of blank lines after it. -/
  blankBreaks : List Char
  /-- Whether the last line began with a space. -/
  spaced : Bool

/-- The text before a next line: a folded break becomes a space. -/
def BlockText.joined (folded nextSpaced : Bool) (block : BlockText) : List Char :=
  if folded ∧ block.lineBreak = ['\n'] ∧ !block.spaced ∧ !nextSpaced then
    block.blankBreaks.reverse ++ (if block.blankBreaks.isEmpty then [' '] else [])
      ++ block.reversed
  else block.blankBreaks.reverse ++ block.lineBreak ++ block.reversed

def BlockText.chomped (chomping : Chomping) (block : BlockText) : List Char :=
  match chomping with
  | .strip => block.reversed.reverse
  | .clip => block.reversed.reverse ++ block.lineBreak
  | .keep => block.reversed.reverse ++ block.lineBreak ++ block.blankBreaks

def blockLines (folded : Bool) (indent : Nat) : Nat → BlockText → Nat → List Char →
    Option (BlockText × List Char)
  | 0, block, _, rest => some (block, rest)
  | fuel + 1, block, column, text =>
    if column ≠ indent ∨ text.isEmpty then some (block, text)
    else
      let spaced := text.head?.any isSpace
      let before := block.joined folded spaced
      let line := text.takeWhile (¬isBreak ·)
      let rest := text.dropWhile (¬isBreak ·)
      match blankLines (some indent) 0 0 [] (rest.drop 1) with
      | none => none
      | some blank =>
        blockLines folded indent fuel
          ⟨line.reverse ++ before, rest.take 1, blank.breaks, spaced⟩
          (if rest.isEmpty then 0 else blank.column) blank.rest

/-- Reads a block scalar after its indicator; `parent` is the indentation around it. -/
def blockScalar? (folded : Bool) (parent : Option Nat) (text : List Char) :
    Option (List Char × List Char) := do
  let (chomping, increment, rest) ← blockHeader? text
  let afterSpaces := rest.dropWhile isSpace
  let comment := afterSpaces.head? = some '#'
  let line := if comment then afterSpaces.dropWhile (¬isBreak ·) else afterSpaces
  if line.head?.any (¬isBreak ·) then none
  else
    let given := increment.map fun n => parent.getD 0 + n
    let blank ← blankLines given 0 0 [] (line.drop 1)
    let indent := given.getD (max 1 (max blank.widest ((parent.map (· + 1)).getD 0)))
    let (block, rest) ←
      blockLines folded indent (text.length + 1) ⟨[], [], blank.breaks, false⟩ blank.column blank.rest
    return (block.chomped chomping, rest)

end Yaml

end ClusterHarness
