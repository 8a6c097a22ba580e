import ClusterHarness.Job.Pairing
import ClusterHarness.Proofs.Hub.Listing
import ClusterHarness.Proofs.Json.Texts
import ClusterHarness.Proofs.Resource.Shapes
import ClusterHarness.Proofs.Text.Utf8
import ClusterHarness.Rehearsal.Host

/-!
# Pages of pull requests

The open pull requests of a repository are served in pages of a hundred, as all that is listed.
What is written of pull requests is read as they are, so there is a service for any of them.
-/

namespace ClusterHarness

variable {σ : Type}

/-! ## Pull requests that are read as they were written -/

namespace PullRequest

open Codec Parts Shape

/-- Numbers have 64 bits. -/
def shape : Shape PullRequest := bounded fun p => p.number ≤ 18446744073709551615

theorem normal_count : Codec.count.Normal (bounded fun n => n ≤ 18446744073709551615) := by
  refine normal_bounded (fun j n read => ?_) fun n fits => ?_
  · obtain ⟨m, got, same⟩ := Option.map_eq_some_iff.mp read
    have fits := (normal_integer _ _).gives j m got
    exact same ▸ Int.toNat_le.mpr fits.2
  · have within : (0 : Int) ≤ n ∧ (n : Int) ≤ 18446744073709551615 :=
      ⟨Int.natCast_nonneg n, Int.ofNat_le.mpr fits⟩
    have read : (Codec.integer 0 18446744073709551615).read (.int n) = some (n : Int) :=
      if_pos within
    exact (congrArg (Option.map Int.toNat) read).trans (congrArg some (Int.toNat_natCast n))

theorem normal_account : Account.codec.Normal .plain :=
  normal_plainRecord (keep_make .plain Account.mk |>.and (keep_text fun _ => rfl))
    (by decide) fun _ => rfl

theorem normal_source : SourceRepository.codec.Normal .plain :=
  normal_plainRecord (keep_make .plain SourceRepository.mk
    |>.and (keep_text fun _ => rfl)
    |>.and (keep_required normal_account (untouched fun _ => rfl)))
    (by decide) fun _ => rfl

theorem normal_head : PullRequestHead.codec.Normal .plain :=
  normal_plainRecord (keep_make .plain PullRequestHead.mk
    |>.and (keep_text fun _ => rfl)
    |>.and (keep_text fun _ => rfl)
    |>.and (keep_maybe (normal_source.nullable nofun) (untouched_option fun _ => rfl)))
    (by decide) fun _ => rfl

theorem normal : PullRequest.codec.Normal shape :=
  normal_record (keep_make shape PullRequest.mk
    |>.and (keep_required normal_count ((timeless_bounded _).field (fun _ fits => fits)
      fun _ => rfl))
    |>.and (keep_required normal_account (untouched fun _ => rfl))
    |>.and (keep_required normal_head (untouched fun _ => rfl)))
    (by decide) (fun _ fits _ _ _ _ => fits) fun _ => rfl

end PullRequest

/-! ## Their text -/

namespace Parts

variable {α β : Type} {depth : Nat}

/-- A text has the members that are written just as they are. -/
def Written (depth : Nat) (parts : Parts σ α) (s : σ) : Prop :=
  ∀ m ∈ parts.toMembers s, Json.Exact depth m.2

theorem written_make (a : α) (s : σ) : (make a).Written depth s := nofun

theorem Written.and {parts : Parts σ (α → β)} {part : Parts σ α} {s : σ}
    (before : parts.Written depth s) (last : part.Written depth s) :
    (parts.and part).Written depth s :=
  List.forall_mem_append.mpr ⟨before, last⟩

theorem written_required {name : String} {c : Codec α} {get : σ → α} {s : σ}
    (exact : Json.Exact depth (c.write (get s))) : (required name c get).Written depth s :=
  List.forall_mem_singleton.mpr exact

theorem written_defaulted {name : String} {c : Codec α} {absent : α} {get : σ → α} {s : σ}
    (exact : Json.Exact depth (c.write (get s))) : (defaulted name c absent get).Written depth s :=
  List.forall_mem_singleton.mpr exact

theorem written_maybe {name : String} {c : Codec α} {get : σ → Option α} {s : σ}
    (exact : ∀ a ∈ get s, Json.Exact depth (c.write a)) : (maybe name c get).Written depth s := by
  unfold maybe optional Written
  dsimp only
  cases got : get s with
  | none => exact nofun
  | some a => exact List.forall_mem_singleton.mpr (exact a got)

theorem Written.record {parts : Parts α α} {a : α} (written : parts.Written depth a) :
    Json.Exact (depth + 1) ((Codec.record parts).write a) :=
  .obj written

end Parts

/-- A list that is served as it is written is accepted as it is, if nothing in it is cut off. -/
theorem Hub.accept_written {α : Type} {c : Codec α} {shape : Shape α} (normal : c.Normal shape)
    {l : List α} (typed : ∀ a ∈ l, shape.Typed a)
    (whole : ∀ a ∈ l, ∀ t ∈ shape.times a, t.InEra ∧ t.nanos = 0)
    (exact_ : ∀ a ∈ l, Json.Exact 126 (c.write a)) (action : String) :
    accept c.list action (200, Utf8.encode (Json.compact (c.list.write l))) = .ok l := by
  have times : ∀ t ∈ shape.list.times l, t.InEra ∧ t.nanos = 0 := fun t inside => by
    obtain ⟨a, listed, inside⟩ := List.mem_flatMap.mp inside
    exact whole a listed t inside
  have read : c.list.read (c.list.write l) = some l :=
    (normal.list.restores l typed fun t inside => (times t inside).1).trans
      (congrArg some (shape.list.whole l fun t inside => (times t inside).2))
  have text : Json.Exact 127 (c.list.write l) := .arr fun j member => by
    obtain ⟨a, listed, rfl⟩ := List.mem_map.mp member
    exact exact_ a listed
  have decoded : ((Utf8.decode (Utf8.encode (Json.compact (c.list.write l)))).toOption.bind
      fun text => (Json.parse? text).bind c.list.read) = some l := by
    rw [Utf8.decode_encode]
    show (Json.parse? _).bind _ = _
    rw [Json.parse?_compact text]
    exact read
  have success (body : List UInt8) : checkStatus action (200, body) = .ok () := rfl
  unfold accept
  rw [success]
  dsimp only
  rw [decoded]
  rfl

namespace PullRequest

open Parts

theorem exact_account (depth : Nat) (a : Account) :
    Json.Exact (depth + 1) (Account.codec.write a) :=
  (written_make _ a |>.and (written_required .str)).record

theorem exact_source (depth : Nat) (r : SourceRepository) :
    Json.Exact (depth + 2) (SourceRepository.codec.write r) :=
  (written_make _ r
    |>.and (written_required .str)
    |>.and (written_required (exact_account depth r.owner))).record

theorem exact_head (depth : Nat) (h : PullRequestHead) :
    Json.Exact (depth + 3) (PullRequestHead.codec.write h) :=
  (written_make _ h
    |>.and (written_required .str)
    |>.and (written_required .str)
    |>.and (written_maybe fun r _ => exact_source depth r)).record

theorem exact_written {p : PullRequest} (typed : shape.Typed p) (depth : Nat) :
    Json.Exact (depth + 4) (PullRequest.codec.write p) := by
  have least : -(Nat.pow 2 63 : Int) ≤ p.number :=
    Int.le_trans (by decide) (Int.natCast_nonneg p.number)
  have greatest : (p.number : Int) < Nat.pow 2 64 := Int.ofNat_lt.mpr (Nat.lt_succ_of_le typed)
  exact (written_make _ p
    |>.and (written_required (.int least greatest))
    |>.and (written_required (exact_account (depth + 2) p.user))
    |>.and (written_required (exact_head depth p.head))).record

def body (pulls : List PullRequest) : List UInt8 :=
  Utf8.encode (Json.compact (PullRequest.codec.list.write pulls))

theorem accept_body {pulls : List PullRequest} (typed : ∀ p ∈ pulls, shape.Typed p)
    (action : String) : Hub.accept PullRequest.codec.list action (200, body pulls) = .ok pulls :=
  Hub.accept_written normal typed nofun (fun p listed => exact_written (typed p listed) 122) action

end PullRequest

namespace Hub

/-! ## Pages -/

/-- The query for a page; the pages are counted from 1, and without a number the first is meant. -/
def pageQuery (number : Option Nat) : List (String × String) :=
  ("per_page", Nat.repr pageSize) :: (number.map fun n => ("page", Nat.repr n)).toList

def pageOf {α : Type} (all : List α) (number : Option Nat) : List α :=
  (all.drop ((number.getD 1 - 1) * pageSize)).take pageSize

def pullPage (hub : Hub) (web : Web σ) (owner repo : String) (number : Option Nat) :
    Session σ (List PullRequest) :=
  hub.fetch web PullRequest.codec.list ("list pull requests of " ++ owner ++ "/" ++ repo)
    ("/repos/" ++ owner ++ "/" ++ repo ++ "/pulls") (pageQuery number)

/-- These are the open pull requests of a repository: every page that the service gives has its part
of them. -/
def Serves (hub : Hub) (web : Web σ) (owner repo : String) (all : List PullRequest) : Prop :=
  ∀ number s t batch, (hub.pullPage web owner repo number).run s = (.ok batch, t) →
    batch = pageOf all number

theorem pullRequests_eq_pullPage (hub : Hub) (web : Web σ) (owner repo : String) :
    hub.pullRequests web owner repo = hub.pullPage web owner repo none :=
  rfl

end Hub

/-! ## A service -/

namespace Target

/-- Digits stand in a form as they are. -/
theorem formText_repr (n : Nat) : formText (Nat.repr n) = Nat.toDigits 10 n := by
  have kept : ∀ c ∈ Nat.toDigits 10 n, (Utf8.encodeChar c).flatMap formChar = [c] := by
    intro c member
    have range := Char.isDigit_iff_toNat.mp (Json.isDigit_of_mem_toDigits member)
    have zero : '0'.toNat = 48 := rfl
    have nine : '9'.toNat = 57 := rfl
    have digits : ∀ code ∈ List.range' 48 10,
        (Utf8.encodeChar (Char.ofNat code)).flatMap formChar = [Char.ofNat code] := by decide
    have each := digits c.toNat (List.mem_range'_1.mpr (by omega))
    rwa [Char.ofNat_toNat] at each
  have written : Utf8.encode (Nat.repr n) = (Nat.toDigits 10 n).flatMap Utf8.encodeChar := by
    rw [Utf8.encode, Nat.toList_repr]
  rw [formText, written, List.flatMap_assoc, List.flatMap_congr kept, List.flatMap_singleton']

end Target

namespace Rehearsal

def pageAsked (query : List Char) : Option Nat :=
  (((Text.split '&' query).filterMap (Text.cut '=')).find? (·.1 == "page".toList)).map fun p =>
    Nat.ofDigitChars 10 p.2 0

def pullsHost (all : List PullRequest) : Host Unit where
  clock := .millisecond
  now _ := 0
  sleepUntil _ s := s
  draw s := (middle, s)
  patience := patience
  send _ s := (.broken "", s)
  today _ := ⟨⟨2024, 3, 10⟩, 720, 0, 0⟩
  random s := (fun n => n, s)
  fetch request s :=
    (.answer 200 (PullRequest.body (Hub.pageOf all (pageAsked (request.url.query.getD [])))), s)
  pageLimit := patience
  launch _ s := (.error missingFile, s)
  environment := []
  verbosity := .info
  say _ s := s
  temporaryDirectory s := (.ok temporaryName, s)
  makeDirectories _ s := (.ok (), s)
  writeFile _ _ s := (.ok (), s)
  kubeconfig _ := none
  executable := .ok ""
  repository := "."
  yamlText := yamlText

theorem pageAsked_pageQuery (number : Option Nat) :
    pageAsked ((Target.formPairs (Hub.pageQuery number)).drop 1) = number := by
  cases number with
  | none => decide +kernel
  | some n =>
      have form : (Target.formPairs (Hub.pageQuery (some n))).drop 1 =
          "per_page=100".toList ++ '&' :: ("page=".toList ++ Nat.toDigits 10 n) := by
        have size : Target.formText (Nat.repr Hub.pageSize) = "100".toList := by decide +kernel
        have names : Target.formText "per_page" = "per_page".toList ∧
            Target.formText "page" = "page".toList := by decide +kernel
        have two : Target.formPairs (Hub.pageQuery (some n)) =
            '&' :: (Target.formText "per_page" ++ '=' :: Target.formText (Nat.repr Hub.pageSize)) ++
              '&' :: (Target.formText "page" ++ '=' :: Target.formText (Nat.repr n)) := by
          simp [Target.formPairs, Hub.pageQuery]
        rw [two, size, names.1, names.2, Target.formText_repr]
        rfl
      have noSeparator : '&' ∉ "page=".toList ++ Nat.toDigits 10 n := by
        intro member
        rcases List.mem_append.mp member with named | digit
        · exact absurd named (by decide)
        · exact absurd (Json.isDigit_of_mem_toDigits digit) (by decide)
      unfold pageAsked
      rw [form, Text.split_append (by decide), Text.split_of_not_mem noSeparator]
      show some (Nat.ofDigitChars 10 (Nat.toDigits 10 n) 0) = some n
      rw [Nat.ofDigitChars_ten_toDigits]

def openHub : Hub := Hub.ofSettings none upstreamOrg

/-- Without a token every path below the service makes a request. -/
theorem openHub_request? {path : String} {rest : List Char} (below : path.toList = '/' :: rest)
    (query : List (String × String)) :
    openHub.request? "GET" path query = some (openHub.requestAt "GET" rest query) := by
  have sendable : (openHub.headers.all fun h => Http.isHeaderValue h.2) = true := by
    decide +kernel
  exact (Hub.request?_eq none upstreamOrg below "GET" query).trans (if_pos sendable)

theorem pageAsked_requestAt {path : List Char} (plain : (Url.below Hub.apiHost path).query = none)
    (number : Option Nat) :
    pageAsked ((openHub.requestAt "GET" path (Hub.pageQuery number)).url.query.getD []) =
      number := by
  have query : (openHub.requestAt "GET" path (Hub.pageQuery number)).url.query =
      some ((Target.formPairs (Hub.pageQuery number)).drop 1) := by
    unfold Hub.requestAt Url.addQuery
    dsimp only
    rw [plain]
    rfl
  rw [query]
  exact pageAsked_pageQuery number

def pageRequest (number : Option Nat) : Http.Request :=
  openHub.requestAt "GET" "repos/redhat-appstudio/e2e-tests/pulls".toList (Hub.pageQuery number)

theorem request?_page (number : Option Nat) :
    openHub.request? "GET" ("/repos/" ++ upstreamOrg ++ "/" ++ testsRepo ++ "/pulls")
      (Hub.pageQuery number) = some (pageRequest number) :=
  openHub_request? (by decide) (Hub.pageQuery number)

theorem pageAsked_pageRequest (number : Option Nat) :
    pageAsked ((pageRequest number).url.query.getD []) = number :=
  pageAsked_requestAt (by decide +kernel) number

/-- Every page can be had, in any order. -/
theorem pullPage_pullsHost {all : List PullRequest}
    (typed : ∀ p ∈ all, PullRequest.shape.Typed p) (number : Option Nat) :
    (openHub.pullPage (pullsHost all).toWeb upstreamOrg testsRepo number).run () =
      (.ok (Hub.pageOf all number), ()) := by
  have inPage : ∀ p ∈ Hub.pageOf all number, PullRequest.shape.Typed p := fun p member =>
    typed p (List.mem_of_mem_drop (List.mem_of_mem_take member))
  have answered : (pullsHost all).toWeb.exchange (some (pageRequest number)) () =
      (some (200, PullRequest.body (Hub.pageOf all number)), ()) := by
    unfold Web.exchange pullsHost
    dsimp only
    rw [pageAsked_pageRequest]
  unfold Hub.pullPage Hub.fetch Hub.send
  rw [request?_page, exceptT_run_bind, ExceptT.run_mk, stateM_bind_apply, answered]
  exact congrArg (fun result => (result, ())) (PullRequest.accept_body inPage _)

theorem serves_pullsHost {all : List PullRequest} (typed : ∀ p ∈ all, PullRequest.shape.Typed p) :
    openHub.Serves (pullsHost all).toWeb upstreamOrg testsRepo all := by
  intro number s t batch got
  cases (pullPage_pullsHost typed number).symm.trans got
  rfl

end Rehearsal

end ClusterHarness
