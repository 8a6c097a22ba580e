import ClusterHarness.Json.Printer
import ClusterHarness.Logging.Filter
import ClusterHarness.Settings

/-!
# Lines of the log

The log is set up once; what is set up later has no effect.  Its filter comes from the environment,
else from the one who sets it up, else it is the usual one.  Events that get through make lines for
readers or for programs.
-/

namespace ClusterHarness

structure LogEvent where
  target : String
  level : Level
  message : String
  deriving DecidableEq, Repr

structure LogSetup where
  coloured : Bool := false
  /-- Lines for programs. -/
  json : Bool := false
  levels : Option String := none
  deriving DecidableEq, Repr

namespace LogSetup

def variableName : String := "APPSTUDIO_LOG"

/-- Information and what is more urgent. -/
def usualFilter : LogFilter := [⟨"", .info⟩]

/-- The filter of a log: a text that is no filter counts as missing. -/
def filter (setup : LogSetup) (env : Environment) : LogFilter :=
  match (env.get? variableName).bind LogFilter.ofText? with
  | some filter => filter
  | none => (setup.levels.bind LogFilter.ofText?).getD usualFilter

end LogSetup

namespace LogEvent

/-- A level as it is shown, as wide as the widest. -/
def levelText : Level → String
  | .off => "  OFF"
  | .error => "ERROR"
  | .warn => " WARN"
  | .info => " INFO"
  | .debug => "DEBUG"
  | .trace => "TRACE"

def levelColour : Level → String
  | .off => "0"
  | .error => "31"
  | .warn => "33"
  | .info => "32"
  | .debug => "34"
  | .trace => "35"

/-- A number in small hexadecimal digits. -/
def hexText (n : Nat) : String := String.ofList (Nat.toDigits 16 n)

/-- A character of a message; those that could control a terminal are spelled out. -/
def safe (c : Char) : String :=
  if c = '\x1b' ∨ c = '\x07' ∨ c = '\x08' ∨ c = '\x0c' ∨ c = '\x7f' then
    "\\x" ++ (if c.toNat < 16 then "0" else "") ++ hexText c.toNat
  else if 0x80 ≤ c.toNat ∧ c.toNat ≤ 0x9f then "\\u\x7b" ++ hexText c.toNat ++ "\x7d"
  else String.singleton c

def safeText (text : String) : String := String.join (text.toList.map safe)

def dim (text : String) : String := "\x1b[2m" ++ text ++ "\x1b[0m"

def plainLine (event : LogEvent) (coloured : Bool) (time : String) : String :=
  if coloured then
    dim time ++ " \x1b[" ++ levelColour event.level ++ "m" ++ levelText event.level ++ "\x1b[0m "
      ++ dim event.target ++ dim ":" ++ " " ++ safeText event.message
  else
    time ++ " " ++ levelText event.level ++ " " ++ event.target ++ ": " ++ safeText event.message

def json (event : LogEvent) (time : String) : Json := .obj [
  ("timestamp", .str time),
  ("level", .str (String.ofList ((levelText event.level).toList.filter (· ≠ ' ')))),
  ("message", .str event.message), ("target", .str event.target)]

def line (event : LogEvent) (setup : LogSetup) (time : String) : String :=
  if setup.json then Json.compact (event.json time) else event.plainLine setup.coloured time

end LogEvent

/-- What is written of some events when the log is set up in some ways one after another. -/
def logLines (env : Environment) (setups : List LogSetup) (time : String) (events : List LogEvent) :
    List String :=
  match setups with
  | [] => []
  | setup :: _ =>
    (events.filter fun event => (setup.filter env).allows event.target event.level).map
      (·.line setup time)

end ClusterHarness
