import ClusterHarness.Http.Exchange
import ClusterHarness.Hub.Repository
import ClusterHarness.Json.Parser
import ClusterHarness.Session

/-!
# The code hosting service

Repositories of one organization and pull requests of any.  Listings of repositories come in pages
of a hundred; a page that is not full is the last.
-/

namespace ClusterHarness

/-- Where the service is, who asks, and the organization in question. -/
structure Hub where
  base : String
  token : Option String
  org : String

namespace Hub

def apiUrl : String := "https://api.github.com"

def userAgent : String := "appstudio-e2e/0.1.0"

/-- How many items a full page has. -/
def pageSize : Nat := 100

/-- The service at an address, whose slashes at the end do not count. -/
def at_ (base : String) (token : Option String) (org : String) : Hub :=
  ⟨String.ofList (Text.dropEndWhile (· = '/') base.toList), token, org⟩

def ofSettings (token : Option String) (org : String) : Hub := at_ apiUrl token org

def request? (hub : Hub) (method path : String) (query : List (String × String)) :
    Option Http.Request :=
  Http.Request.make? method (hub.base ++ path) query
    ([("accept", "application/vnd.github+json"), ("user-agent", userAgent)]
      ++ (hub.token.map fun token => ("authorization", "Bearer " ++ token)).toList) []

variable {σ α : Type}

/-- Sends a request of some purpose, which errors name. -/
def send (hub : Hub) (web : Web σ) (action method path : String)
    (query : List (String × String)) : Session σ (Nat × List UInt8) :=
  ExceptT.mk do
    return match ← web.exchange (hub.request? method path query) with
      | some answer => .ok answer
      | none => .error (.hub action .request)

/-- Any status but a success is an error with the body's text. -/
def checkStatus (action : String) (answer : Nat × List UInt8) : Except Error Unit :=
  if Http.isSuccessStatus answer.1 then .ok ()
  else .error (.hubStatus action answer.1 (Http.bodyText answer.2))

/-- The value in the body of a successful answer. -/
def accept (codec : Codec α) (action : String) (answer : Nat × List UInt8) : Except Error α := do
  checkStatus action answer
  match (Utf8.decode answer.2).toOption.bind fun text => (Json.parse? text).bind codec.read with
  | some value => .ok value
  | none => .error (.hub action .decode)

def fetch (hub : Hub) (web : Web σ) (codec : Codec α) (action path : String)
    (query : List (String × String)) : Session σ α := do
  let answer ← hub.send web action "GET" path query
  ExceptT.mk (pure (accept codec action answer))

def repositoryExists (hub : Hub) (web : Web σ) (name : String) : Session σ Bool := do
  let action := "get repository " ++ hub.org ++ "/" ++ name
  let answer ← hub.send web action "GET" ("/repos/" ++ hub.org ++ "/" ++ name) []
  if answer.1 = 404 then return false
  else
    ExceptT.mk (pure (checkStatus action answer))
    return true

def listing (hub : Hub) : String := "list repositories of " ++ hub.org

def repositoryPage (hub : Hub) (web : Web σ) (page : Nat) : Session σ (List Repository) :=
  hub.fetch web Repository.codec.list (hub.listing ++ " (page " ++ Nat.repr page ++ ")")
    ("/orgs/" ++ hub.org ++ "/repos") [("per_page", Nat.repr pageSize), ("page", Nat.repr page)]

/-- The repositories from a page on, for at most so many pages. -/
def repositoriesFrom (hub : Hub) (web : Web σ) : Nat → Nat → Session σ (List Repository)
  | 0, _ => throw (.unsettled hub.listing)
  | pages + 1, page => do
    let batch ← hub.repositoryPage web page
    if batch.length < pageSize then return batch
    else return batch ++ (← hub.repositoriesFrom web pages (page + 1))

def repositories (hub : Hub) (web : Web σ) : Session σ (List Repository) :=
  hub.repositoriesFrom web web.pageLimit 1

def deleteRepository (hub : Hub) (web : Web σ) (name : String) : Session σ Unit := do
  let action := "delete repository " ++ hub.org ++ "/" ++ name
  let answer ← hub.send web action "DELETE" ("/repos/" ++ hub.org ++ "/" ++ name) []
  ExceptT.mk (pure (checkStatus action answer))

def pullRequest (hub : Hub) (web : Web σ) (owner repo : String) (number : Nat) :
    Session σ PullRequest :=
  hub.fetch web PullRequest.codec
    ("get pull request " ++ owner ++ "/" ++ repo ++ "#" ++ Nat.repr number)
    ("/repos/" ++ owner ++ "/" ++ repo ++ "/pulls/" ++ Nat.repr number) []

/-- The open pull requests of a repository on its first page. -/
def pullRequests (hub : Hub) (web : Web σ) (owner repo : String) : Session σ (List PullRequest) :=
  hub.fetch web PullRequest.codec.list ("list pull requests of " ++ owner ++ "/" ++ repo)
    ("/repos/" ++ owner ++ "/" ++ repo ++ "/pulls") [("per_page", Nat.repr pageSize)]

end Hub

end ClusterHarness
