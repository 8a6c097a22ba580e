import ClusterHarness.Http.Target

/-!
# Locators

A locator is read as browsers read it: blanks around it and line breaks in it do not count, the
scheme is in lower case, dot segments are resolved, and characters that may not stand in a path are
percent-encoded.  The special schemes have a host and take `\` for `/`.
-/

namespace ClusterHarness

inductive UrlError where
  | emptyHost
  | invalidDomain
  | invalidPort
  | invalidIpv4
  | invalidIpv6
  | noScheme
  deriving DecidableEq, Repr

def UrlError.message : UrlError → String
  | .emptyHost => "empty host"
  | .invalidDomain => "invalid domain character"
  | .invalidPort => "invalid port number"
  | .invalidIpv4 => "invalid IPv4 address"
  | .invalidIpv6 => "invalid IPv6 address"
  | .noScheme => "relative URL without a base"

/-- The part of a locator after its host: a text without structure, or segments. -/
inductive UrlPath where
  | bare (text : List Char)
  | segments (list : List (List Char))
  deriving DecidableEq, Repr

structure Url where
  scheme : List Char
  host : List Char
  port : Option Nat
  path : UrlPath
  query : Option (List Char)
  deriving DecidableEq, Repr

namespace UrlPath

def text : UrlPath → List Char
  | .bare text => text
  | .segments [] => []
  | .segments list => '/' :: Text.join '/' list

end UrlPath

namespace Url

/-- Path and query, as a request line has them. -/
def target (url : Url) : List Char :=
  url.path.text ++ match url.query with
    | some query => '?' :: query
    | none => []

/-- The locator with more parameters in its query. -/
def addQuery (url : Url) (pairs : List (String × String)) : Url :=
  if pairs.isEmpty then url
  else match url.query with
    | none | some [] => { url with query := some ((Target.formPairs pairs).drop 1) }
    | some query => { url with query := some (query ++ Target.formPairs pairs) }

/-- The last segment of the path that is not empty. -/
def lastSegment? (url : Url) : Option (List Char) :=
  match url.path with
  | .bare _ => none
  | .segments list => (list.filter (¬·.isEmpty)).getLast?

/-! ## Percent-encoding -/

/-- Whether a character is encoded wherever it stands: controls and what is not ASCII. -/
def isHidden (c : Char) : Bool := c.toNat < 0x20 || 0x7e < c.toNat

def escaped (unsafe_ : Char → Bool) (text : List Char) : List Char :=
  text.flatMap fun c =>
    if isHidden c || unsafe_ c then (Utf8.encodeChar c).flatMap Target.percent else [c]

/-- The printable characters that are encoded in a path. -/
def pathEscapes (c : Char) : Bool := " \"#<>?\x60\x7b\x7d".toList.contains c

/-- The printable characters that are encoded in a query. -/
def queryEscapes (special : Bool) (c : Char) : Bool :=
  " \"#<>".toList.contains c || (special && c = '\'')

/-! ## Schemes -/

/-- The special schemes and their ports. -/
def defaultPort? (scheme : String) : Option Nat :=
  match scheme with
  | "http" | "ws" => some 80
  | "https" | "wss" => some 443
  | "ftp" => some 21
  | _ => none

def isSpecial (scheme : String) : Bool := scheme = "file" || (defaultPort? scheme).isSome

def isSchemeChar (c : Char) : Bool := c.isAlphanum || c = '+' || c = '-' || c = '.'

/-- The scheme at the start of a text, in lower case, and what follows its colon. -/
def scheme? (text : List Char) : Option (List Char × List Char) :=
  match Text.cut ':' text with
  | some (c :: name, rest) =>
    if c.isAlpha ∧ name.all isSchemeChar then some ((c :: name).map Char.toLower, rest) else none
  | _ => none

/-! ## Hosts -/

/-- The value of digits to a base, if all are digits of it. -/
def digits? (base : Nat) (text : List Char) : Option Nat :=
  text.foldlM (fun n c => (Target.hexValue? c).bind fun d =>
    if d < base then some (base * n + d) else none) 0

/-- A number of an address: hexadecimal after `0x`, octal after `0`. -/
def addressNumber? (part : List Char) : Option Nat :=
  match part with
  | '0' :: 'x' :: digits | '0' :: 'X' :: digits => digits? 16 digits
  | '0' :: digits => digits? 8 digits
  | [] => none
  | digits => digits? 10 digits

/-- The parts of a domain between its dots; a dot at the end does not count. -/
def domainParts (domain : List Char) : List (List Char) :=
  let parts := Text.split '.' domain
  if parts.getLast? = some [] ∧ 1 < parts.length then parts.dropLast else parts

/-- Whether a domain has to be an address because its last part is a number. -/
def endsInNumber (domain : List Char) : Bool :=
  match (domainParts domain).getLast? with
  | some part =>
    !part.isEmpty && (part.all Char.isDigit ||
      (part.take 2 = ['0', 'x'] || part.take 2 = ['0', 'X']) && (digits? 16 (part.drop 2)).isSome)
  | none => false

def isIpv4 (domain : List Char) : Bool :=
  let parts := domainParts domain
  match parts.mapM addressNumber? with
  | some numbers =>
    numbers.length ≤ 4 && numbers.dropLast.all (· ≤ 255)
      && (numbers.getLast?).any (· < Nat.pow 256 (5 - numbers.length))
  | none => false

/-- Whether a text is four numbers up to 255 with dots between. -/
def isDottedQuad (text : List Char) : Bool :=
  let parts := Text.split '.' text
  parts.length == 4 && parts.all fun part =>
    (part.length == 1 || part.head? ≠ some '0') && (digits? 10 part).any (· ≤ 255)
      && !part.isEmpty

/-- How many pieces of 16 bits a part of an address spells, if its pieces are right. -/
def pieces? (last : Bool) : List (List Char) → Option Nat
  | [] => some 0
  | [piece] =>
    if last ∧ isDottedQuad piece then some 2
    else if piece.length ≤ 4 ∧ !piece.isEmpty ∧ (digits? 16 piece).isSome then some 1 else none
  | piece :: rest =>
    if piece.length ≤ 4 ∧ !piece.isEmpty ∧ (digits? 16 piece).isSome then
      (pieces? last rest).map (· + 1)
    else none

/-- The text before and after the first double colon. -/
def cutGap (before : List Char) : List Char → Option (List Char × List Char)
  | ':' :: ':' :: rest => some (before.reverse, rest)
  | c :: rest => cutGap (c :: before) rest
  | [] => none

def groups (text : List Char) : List (List Char) := if text.isEmpty then [] else Text.split ':' text

/-- Whether a text is an address of eight pieces; a double colon stands for any number of zero
pieces. -/
def isIpv6 (text : List Char) : Bool :=
  match cutGap [] text with
  | some (before, after) =>
    match pieces? false (groups before), pieces? true (groups after) with
    | some a, some b => a + b < 8
    | _, _ => false
  | none => pieces? true (groups text) = some 8

/-- Characters that no host may hold. -/
def isForbidden (c : Char) : Bool :=
  c.toNat ≤ 0x20 || c.toNat = 0x7f || "#/:<>?@[\\]^|".toList.contains c

/-- The host that a text names in a locator with this kind of scheme. -/
def readHost (special : Bool) (text : List Char) : Except UrlError (List Char) :=
  match text with
  | '[' :: rest =>
    if rest.getLast? = some ']' ∧ isIpv6 rest.dropLast then .ok text else .error .invalidIpv6
  | _ =>
    if special then
      match Utf8.decode (Target.unescape text) with
      | .error _ => .error .invalidDomain
      | .ok domain =>
        let domain := domain.toList.map Char.toLower
        if domain.any fun c => isForbidden c || c = '%' then .error .invalidDomain
        else if endsInNumber domain ∧ !isIpv4 domain then .error .invalidIpv4
        else .ok (text.map Char.toLower)
    else if text.any isForbidden then .error .invalidDomain
    else .ok (escaped (fun _ => false) text)

/-- The length of the host at the start of a text: up to a colon outside of brackets. -/
def hostLength (bracketed : Bool) : List Char → Nat
  | [] => 0
  | ':' :: rest => if bracketed then 1 + hostLength bracketed rest else 0
  | '[' :: rest => 1 + hostLength true rest
  | ']' :: rest => 1 + hostLength false rest
  | _ :: rest => 1 + hostLength bracketed rest

/-- The port after a host, none for an empty one. -/
def readPort (text : List Char) : Except UrlError (Option Nat) :=
  match text with
  | [] | [':'] => .ok none
  | _ :: digits =>
    match digits? 10 digits with
    | some n => if n < 65536 then .ok (some n) else .error .invalidPort
    | none => .error .invalidPort

/-- What follows the last `@`; what stands before it names a user. -/
def withoutUser (authority : List Char) : List Char :=
  (authority.reverse.takeWhile (· ≠ '@')).reverse

/-- Host and port of the part between the slashes. -/
def readAuthority (special : Bool) (authority : List Char) :
    Except UrlError (List Char × Option Nat) := do
  let hostAndPort := withoutUser authority
  let length := hostLength false hostAndPort
  let host := hostAndPort.take length
  let after := hostAndPort.drop length
  if host.isEmpty ∧ (special ∨ !after.isEmpty ∨ authority.contains '@') then .error .emptyHost
  else
    let host ← readHost special host
    let port ← readPort after
    return (host, port)

/-! ## Paths -/

def isDot (segment : List Char) : Bool :=
  segment = ['.'] || segment.map Char.toLower = "%2e".toList

def isDoubleDot (segment : List Char) : Bool :=
  ["..", ".%2e", "%2e.", "%2e%2e"].any fun dots => segment.map Char.toLower = dots.toList

/-- Resolves dot segments; one at the end leaves an empty segment there. -/
def resolve (before : List (List Char)) : List (List Char) → List (List Char)
  | [] => before.reverse
  | [segment] =>
    if isDoubleDot segment then ([] :: before.tail).reverse
    else if isDot segment then ([] :: before).reverse
    else (segment :: before).reverse
  | segment :: rest =>
    if isDoubleDot segment then resolve before.tail rest
    else if isDot segment then resolve before rest
    else resolve (segment :: before) rest

/-- The segments of the text that follows a path's first slash. -/
def readSegments (special : Bool) (text : List Char) : UrlPath :=
  let text := if special then text.map fun c => if c = '\\' then '/' else c else text
  .segments ((resolve [] (Text.split '/' text)).map (escaped pathEscapes))

/-! ## Reading -/

/-- The text of a locator without what does not count. -/
def clean (text : List Char) : List Char :=
  let outside (c : Char) : Bool := c.toNat ≤ 0x20
  (Text.dropEndWhile outside (text.dropWhile outside)).filter fun c =>
    c ≠ '\t' ∧ c ≠ '\n' ∧ c ≠ '\r'

def isSlash (special : Bool) (c : Char) : Bool := c = '/' || (special && c = '\\')

/-- Splits off the authority, which ends at the first slash. -/
def splitAuthority (special : Bool) (text : List Char) : List Char × List Char :=
  (text.takeWhile (¬isSlash special ·), text.dropWhile (¬isSlash special ·))

/-- Reads what stands between the scheme and the query. -/
def readHierarchy (scheme : String) (text : List Char) :
    Except UrlError (List Char × Option Nat × UrlPath) := do
  let special := isSpecial scheme
  if scheme = "file" then
    let (slashes, rest) := (text.takeWhile (isSlash true), text.dropWhile (isSlash true))
    if slashes.length = 2 then
      let (host, path) := splitAuthority true rest
      let host ← if host.isEmpty then pure [] else readHost true host
      return (if host = "localhost".toList then [] else host, none,
        readSegments true (path.drop 1))
    else return ([], none, readSegments true (text.drop (min slashes.length 3)))
  else if special then
    let (authority, path) := splitAuthority true (text.dropWhile (isSlash true))
    let (host, port) ← readAuthority true authority
    return (host, port.filter fun n => defaultPort? scheme ≠ some n,
      readSegments true (path.drop 1))
  else
    match text with
    | '/' :: '/' :: rest =>
      let (authority, path) := splitAuthority false rest
      let (host, port) ← readAuthority false authority
      return (host, port, match path with
        | [] => .segments []
        | _ :: path => readSegments false path)
    | '/' :: path => return ([], none, readSegments false path)
    | text => return ([], none, .bare (escaped (fun _ => false) text))

def read (text : List Char) : Except UrlError Url :=
  match scheme? (clean text) with
  | none => .error .noScheme
  | some (scheme, rest) => do
    let name := String.ofList scheme
    let rest := rest.takeWhile (· ≠ '#')
    let query := (Text.cut '?' rest).map (·.2)
    let (host, port, path) ← readHierarchy name (rest.takeWhile (· ≠ '?'))
    return ⟨scheme, host, port, path, query.map (escaped (queryEscapes (isSpecial name)))⟩

end Url

end ClusterHarness
