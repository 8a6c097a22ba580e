/-!
# Notices

What the command line says while it works.  Results go to the standard output and show always; the
rest goes to the standard error, each kind from some level of verbosity on.
-/

namespace ClusterHarness

/-- Levels of verbosity, from silence to everything. -/
inductive Level where
  | off
  | error
  | warn
  | info
  | debug
  | trace
  deriving DecidableEq, Repr

namespace Level

def rank : Level → Nat
  | .off => 0
  | .error => 1
  | .warn => 2
  | .info => 3
  | .debug => 4
  | .trace => 5

/-- Whether a message of level `a` shows at level `b`. -/
def within (a b : Level) : Bool := a.rank ≤ b.rank

/-- The level of a rank; ranks beyond either end stand for the level there. -/
def ofRank (n : Int) : Level :=
  if n ≤ 0 then .off
  else match n.toNat with
    | 1 => .error
    | 2 => .warn
    | 3 => .info
    | 4 => .debug
    | _ => .trace

end Level

inductive NoticeKind where
  | display
  | critical
  | debug
  | info
  | success
  | waiting
  | warning
  deriving DecidableEq, Repr

namespace NoticeKind

/-- The verbosity from which a kind shows, if it does not always. -/
def level? : NoticeKind → Option Level
  | .display | .critical => none
  | .debug => some .debug
  | .info | .success | .waiting => some .info
  | .warning => some .warn

def style : NoticeKind → String
  | .display | .debug | .info => "1"
  | .success => "96"
  | .waiting => "95"
  | .warning => "93"
  | .critical => "91"

def closing : NoticeKind → String
  | .display | .debug | .info => "0"
  | .success | .waiting | .warning | .critical => "39"

end NoticeKind

structure Notice where
  kind : NoticeKind
  text : String
  deriving DecidableEq, Repr

namespace Notice

def display (text : String) : Notice := ⟨.display, text⟩

def critical (text : String) : Notice := ⟨.critical, text⟩

def debug (text : String) : Notice := ⟨.debug, text⟩

def info (text : String) : Notice := ⟨.info, text⟩

def success (text : String) : Notice := ⟨.success, text⟩

def warning (text : String) : Notice := ⟨.warning, text⟩

def shows (notice : Notice) (verbosity : Level) : Bool :=
  notice.kind.level?.all fun level => level.within verbosity

def toStandardOutput (notice : Notice) : Bool := notice.kind = .display

def line (notice : Notice) (coloured : Bool) : String :=
  if coloured then
    "\x1b[" ++ notice.kind.style ++ "m" ++ notice.text ++ "\x1b[" ++ notice.kind.closing ++ "m"
  else notice.text

end Notice

end ClusterHarness
