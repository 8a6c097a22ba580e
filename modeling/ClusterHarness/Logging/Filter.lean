import ClusterHarness.Console.Notice
import ClusterHarness.Text.Blank

/-!
# Filters of the log

A filter is a list of directives: a level for all targets, a level for the targets that begin in
some way, or the beginning alone, which lets every level through.  Of the directives for a target
the one with the longest beginning counts, and of two with one beginning the later.
-/

namespace ClusterHarness

namespace Level

def name : Level → String
  | .off => "off"
  | .error => "error"
  | .warn => "warn"
  | .info => "info"
  | .debug => "debug"
  | .trace => "trace"

def all : List Level := [.off, .error, .warn, .info, .debug, .trace]

/-- The level of a name, whose case does not count, or of a number. -/
def ofText? (text : List Char) : Option Level :=
  let digits := match text with
    | '+' :: digits => digits
    | digits => digits
  let plain := String.ofList (text.map Char.toLower)
  match all.find? (·.name == plain) with
  | some level => some level
  | none =>
    if digits.isEmpty || !digits.all Char.isDigit then none
    else all[digits.foldl (fun n c => n * 10 + (c.toNat - '0'.toNat)) 0]?

end Level

/-- A level for the targets that begin in some way; the empty beginning is that of all. -/
structure Directive where
  target : String
  level : Level
  deriving DecidableEq, Repr

namespace Directive

/-- The most that a directive without a level lets through. -/
def everything : Level := .trace

/-- A level that may be left out. -/
def levelOf? (text : List Char) : Option Level :=
  if text.isEmpty then some everything else Level.ofText? text

def isTargetStart (c : Char) : Bool := c.isAlphanum || c == '-' || c == ':' || c == '_'

/-- What follows the part of a directive that is about spans, after its opening bracket: a name,
and names of fields in braces, none of them empty. -/
def afterSpans? (text : List Char) : Option (List Char) :=
  let isEnd (c : Char) : Bool := c == ']' || c == '\x7b'
  match text.dropWhile (!isEnd ·) with
  | ']' :: rest => some rest
  | '\x7b' :: rest =>
    let fields := rest.takeWhile (· ≠ '\x7d')
    match rest.dropWhile (· ≠ '\x7d') with
    | '\x7d' :: ']' :: rest =>
      if (Text.split ',' fields).any (·.isEmpty) then none else some rest
    | _ => none
  | _ => none

/-- Reads the part that is about spans and the level after it.  Such a directive is for what
happens inside spans, and no event of the harness is in one. -/
def ofSpans? (text : List Char) : Option (List Directive) :=
  match afterSpans? text with
  | some [] => some []
  | some ('=' :: level) => (levelOf? level).map fun _ => []
  | _ => none

/-- The directives that a text gives: one, or none if it is about spans.  Blanks around it make a
beginning of the whole text. -/
def ofText? (text : List Char) : Option (List Directive) :=
  let trimmed := Text.trim text
  match trimmed with
  | [] => none
  | '[' :: rest => ofSpans? rest
  | c :: _ =>
    if !isTargetStart c then none
    else
      let start := trimmed.takeWhile fun c => c != '=' && c != '['
      match trimmed.drop start.length with
      | [] =>
        match Level.ofText? text with
        | some level => some [⟨"", level⟩]
        | none => some [⟨String.ofList text, everything⟩]
      | '[' :: rest => ofSpans? rest
      | _ =>
        (levelOf? (text.drop (start.length + 1))).map fun level =>
          [⟨String.ofList (text.take start.length), level⟩]

def covers (directive : Directive) (target : String) : Bool := target.startsWith directive.target

/-- The more specific of two directives: the longer beginning, else the second. -/
def moreSpecific (a b : Directive) : Directive :=
  if b.target.utf8ByteSize < a.target.utf8ByteSize then a else b

end Directive

abbrev LogFilter := List Directive

namespace LogFilter

/-- Reads directives between commas; empty ones do not count. -/
def ofText? (text : String) : Option LogFilter :=
  (((Text.split ',' text.toList).filter (!·.isEmpty)).mapM Directive.ofText?).map List.flatten

def directiveFor? (filter : LogFilter) (target : String) : Option Directive :=
  match List.filter (·.covers target) filter with
  | [] => none
  | first :: rest => some (rest.foldl Directive.moreSpecific first)

/-- Whether an event of a level gets through. -/
def allows (filter : LogFilter) (target : String) (level : Level) : Bool :=
  (filter.directiveFor? target).any fun directive => level.within directive.level

end LogFilter

end ClusterHarness
