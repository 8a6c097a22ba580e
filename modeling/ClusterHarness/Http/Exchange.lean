import ClusterHarness.Http.Status
import ClusterHarness.Http.Url

/-!
# Exchanges over the web

A web answers requests.  Whoever makes them maps the web's state to a result and the next state, so
a statement about all webs is one about every sequence of answers.
-/

namespace ClusterHarness

namespace Http

structure Request where
  method : String
  url : Url
  headers : List (String × String)
  body : List UInt8
  deriving DecidableEq, Repr

/-- What comes back: a status with a body, or nothing. -/
inductive Reply where
  | answer (status : Nat) (body : List UInt8)
  | closed
  deriving DecidableEq, Repr

def isHeaderValue (text : String) : Bool :=
  text.toList.all fun c => c = '\t' || (0x20 ≤ c.toNat && c.toNat ≠ 0x7f)

/-- The request of a method for a locator's text with parameters added to its query, unless the
text or a header is malformed.  Blanks around a header's value do not belong to it. -/
def Request.make? (method url : String) (query headers : List (String × String))
    (body : List UInt8) : Option Request :=
  match Url.read url.toList with
  | .error _ => none
  | .ok url =>
    if headers.all fun h => isHeaderValue h.2 then
      some ⟨method, url.addQuery query, headers.map fun h => (h.1, Text.trimmed h.2), body⟩
    else none

/-- The text of a body, with U+FFFD for what is not UTF-8; a byte order mark does not count. -/
def bodyText (body : List UInt8) : String :=
  match body with
  | 0xef :: 0xbb :: 0xbf :: rest => Utf8.decodeLossy rest
  | _ => Utf8.decodeLossy body

end Http

/-- A web to send requests to.  Listings are followed for at most `pageLimit` pages. -/
structure Web (σ : Type) where
  fetch : Http.Request → σ → Http.Reply × σ
  pageLimit : Nat

namespace Web

variable {σ : Type}

/-- Sends a request, if it is well-formed; `none` when no answer comes back. -/
def exchange (w : Web σ) (request : Option Http.Request) : StateM σ (Option (Nat × List UInt8)) :=
  fun s =>
    match request with
    | none => (none, s)
    | some request =>
      match w.fetch request s with
      | (.answer status body, s) => (some (status, body), s)
      | (.closed, s) => (none, s)

end Web

end ClusterHarness
