import ClusterHarness.Error
import ClusterHarness.Text.Blank

/-!
# Failures

A failure says what went wrong in words, and below them what caused it, the outermost first.
-/

namespace ClusterHarness

inductive Format where
  | json
  | yaml
  | http
  | regex
  | base64
  deriving DecidableEq, Repr

def Format.fault : Format → String
  | .json => "malformed JSON"
  | .yaml => "malformed YAML"
  | .http => "the request failed"
  | .regex => "malformed regular expression"
  | .base64 => "malformed Base64"

inductive Cause where
  | words (text : String)
  | harness (error : Error)
  | malformed (what : Format)
  deriving DecidableEq, Repr

def Cause.message : Cause → String
  | .words text => text
  | .harness error => error.message
  | .malformed what => what.fault

structure Failure where
  outermost : Cause
  causes : List Cause
  deriving DecidableEq, Repr

namespace Failure

def ofText (text : String) : Failure := ⟨.words text, []⟩

def ofError (error : Error) : Failure := ⟨.harness error, []⟩

def malformed (what : Format) : Failure := ⟨.malformed what, []⟩

def within (failure : Failure) (context : String) : Failure :=
  ⟨.words context, failure.outermost :: failure.causes⟩

def chain (failure : Failure) : List Cause := failure.outermost :: failure.causes

/-- All in one line. -/
def text (failure : Failure) : String :=
  String.intercalate ": " (failure.chain.map Cause.message)

/-- A text of several lines, each but the first after some blanks. -/
def indented (blanks : String) (text : String) : String :=
  String.intercalate ("\n" ++ blanks) ((Text.split '\n' text.toList).map String.ofList)

/-- The causes below a message, numbered if there are several. -/
def causeLines : List String → List String
  | [] => []
  | [cause] => ["    " ++ indented "    " cause]
  | causes => causes.zipIdx.map fun (cause, n) =>
    let number := Nat.repr n
    String.ofList (List.replicate (5 - number.length) ' ') ++ number ++ ": "
      ++ indented "       " cause

/-- The report that ends a program which failed. -/
def report (failure : Failure) : String :=
  let causes := failure.causes.map Cause.message
  "Error: " ++ failure.outermost.message
    ++ (if causes.isEmpty then ""
      else "\n\nCaused by:\n" ++ String.intercalate "\n" (causeLines causes))

end Failure

end ClusterHarness
