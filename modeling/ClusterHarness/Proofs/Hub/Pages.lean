import ClusterHarness.Proofs.Hub.Pulls
import Mathlib.Data.List.Forall2

/-!
# Listings page by page

An organization's repositories are served in a fixed order, a hundred on a page.  A listing gets one
page after the other.  As all pages but the last one are full, nothing is missed at the end, where
the last page may be empty, and as the pages follow one another, nothing comes twice.
-/

namespace ClusterHarness

variable {σ : Type}

def Repository.listed? (body : List UInt8) : Option (List Repository) :=
  (Utf8.decode body).toOption.bind fun text => (Json.parse? text).bind Repository.codec.list.read

namespace Hub

/-! ## Single pages -/

def pageAction (hub : Hub) (page : Nat) : String :=
  hub.listing ++ " (page " ++ Nat.repr page ++ ")"

def pageRequest? (hub : Hub) (page : Nat) : Option Http.Request :=
  hub.request? "GET" ("/orgs/" ++ hub.org ++ "/repos") (pageQuery (some page))

/-- A page is asked for and comes, with some repositories on it. -/
structure PageComes (hub : Hub) (host : Host σ) (page : Nat) (s : σ) (request : Http.Request)
    (batch : List Repository) : Prop where
  made : hub.pageRequest? page = some request
  answered : ∃ status body, (host.fetch request s).1 = .answer status body ∧
    Http.isSuccessStatus status = true ∧ Repository.listed? body = some batch

/-- A page does not come, and the error says why: the request could not be made, no answer came
back, or one with a status other than success or with a body that lists no repositories. -/
inductive PageFails (hub : Hub) (host : Host σ) (page : Nat) (s : σ) : Error → Prop where
  | unmade (unmade : hub.pageRequest? page = none) :
      PageFails hub host page s (.hub (hub.pageAction page) .request)
  | transport {request : Http.Request} (made : hub.pageRequest? page = some request)
      (closed : (host.fetch request s).1 = .closed) :
      PageFails hub host page s (.hub (hub.pageAction page) .request)
  | status {request : Http.Request} {status : Nat} {body : List UInt8}
      (made : hub.pageRequest? page = some request)
      (answered : (host.fetch request s).1 = .answer status body)
      (refused : Http.isSuccessStatus status = false) :
      PageFails hub host page s (.hubStatus (hub.pageAction page) status (Http.bodyText body))
  | body {request : Http.Request} {status : Nat} {body : List UInt8}
      (made : hub.pageRequest? page = some request)
      (answered : (host.fetch request s).1 = .answer status body)
      (fine : Http.isSuccessStatus status = true) (unread : Repository.listed? body = none) :
      PageFails hub host page s (.hub (hub.pageAction page) .decode)

variable {hub : Hub} {host : Host σ} {page : Nat} {s t u : σ} {request : Http.Request}
  {batch : List Repository} {cause : Error} {acts : List Act}

theorem page_comes_or_fails (hub : Hub) (host : Host σ) (page : Nat) (s : σ) :
    (∃ request batch, hub.PageComes host page s request batch) ∨
      ∃ cause, hub.PageFails host page s cause := by
  cases made : hub.pageRequest? page with
  | none => exact Or.inr ⟨_, .unmade made⟩
  | some request =>
      cases answered : (host.fetch request s).1 with
      | closed => exact Or.inr ⟨_, .transport made answered⟩
      | answer status body =>
          cases fine : Http.isSuccessStatus status with
          | false => exact Or.inr ⟨_, .status made answered fine⟩
          | true =>
              cases read : Repository.listed? body with
              | none => exact Or.inr ⟨_, .body made answered fine read⟩
              | some batch => exact Or.inl ⟨request, batch, made, status, body, answered, fine, read⟩

theorem accept_listed (action : String) (status : Nat) (body : List UInt8) :
    accept Repository.codec.list action (status, body) =
      if Http.isSuccessStatus status then
        (Repository.listed? body).elim (.error (.hub action .decode)) .ok
      else .error (.hubStatus action status (Http.bodyText body)) := by
  unfold accept checkStatus Repository.listed?
  dsimp only
  cases Http.isSuccessStatus status with
  | false => rfl
  | true =>
      cases (Utf8.decode body).toOption.bind fun text =>
        (Json.parse? text).bind Repository.codec.list.read <;> rfl

/-- To get a page is to send the request for it and to read what comes back. -/
theorem repositoryPage_of_made (made : hub.pageRequest? page = some request) (s : σ) :
    (hub.repositoryPage host.toWeb page).run s =
      (match (host.fetch request s).1 with
        | .closed => .error (.hub (hub.pageAction page) .request)
        | .answer status body => accept Repository.codec.list (hub.pageAction page) (status, body),
        (host.fetch request s).2) := by
  have sent : hub.request? "GET" ("/orgs/" ++ hub.org ++ "/repos")
      [("per_page", Nat.repr pageSize), ("page", Nat.repr page)] = some request := made
  unfold repositoryPage fetch send
  rw [exceptT_run_bind, ExceptT.run_mk, stateM_bind_apply, sent]
  unfold Web.exchange
  dsimp only
  obtain ⟨_ | _, _⟩ := host.fetch request s <;> rfl

theorem repositoryPage_of_unmade (unmade : hub.pageRequest? page = none) (s : σ) :
    (hub.repositoryPage host.toWeb page).run s =
      (.error (.hub (hub.pageAction page) .request), s) := by
  have unsent : hub.request? "GET" ("/orgs/" ++ hub.org ++ "/repos")
      [("per_page", Nat.repr pageSize), ("page", Nat.repr page)] = none := unmade
  unfold repositoryPage fetch send
  rw [exceptT_run_bind, ExceptT.run_mk, stateM_bind_apply, unsent]
  rfl

/-- The only act in getting a page is to fetch it. -/
theorem journaled_page (hub : Hub) (host : Host σ) (page : Nat) (s : σ) (acts : List Act) :
    (hub.repositoryPage host.journaled.toWeb page).run (s, acts) =
      (((hub.repositoryPage host.toWeb page).run s).1,
        (((hub.repositoryPage host.toWeb page).run s).2,
          acts ++ host.fetchNote (hub.pageRequest? page) s)) :=
  hub.journaled_fetch host _ _ _ _ s acts

/-- A page that comes is returned. -/
theorem PageComes.run (comes : hub.PageComes host page s request batch) (acts : List Act) :
    (hub.repositoryPage host.journaled.toWeb page).run (s, acts) =
      (.ok batch, ((host.fetch request s).2,
        acts ++ [.fetched request (host.fetch request s).1])) := by
  obtain ⟨made, status, body, answered, fine, read⟩ := comes
  rw [journaled_page, repositoryPage_of_made made, made, answered]
  dsimp only
  rw [accept_listed, fine, if_pos rfl, read, ← answered]
  rfl

/-- A page that does not come is an error, and its request is not sent again. -/
theorem PageFails.run (fails : hub.PageFails host page s cause) (acts : List Act) :
    ∃ t, (hub.repositoryPage host.journaled.toWeb page).run (s, acts) =
      (.error cause, (t, acts ++ host.fetchNote (hub.pageRequest? page) s)) := by
  rw [journaled_page]
  cases fails with
  | unmade unmade => exact ⟨s, by rw [repositoryPage_of_unmade unmade]⟩
  | transport made closed => exact ⟨_, by rw [repositoryPage_of_made made, closed]⟩
  | @status request _ _ made answered refused =>
      refine ⟨(host.fetch request s).2, ?_⟩
      rw [repositoryPage_of_made made, answered]
      dsimp only
      rw [accept_listed, refused]
      rfl
  | @body request _ _ made answered fine unread =>
      refine ⟨(host.fetch request s).2, ?_⟩
      rw [repositoryPage_of_made made, answered]
      dsimp only
      rw [accept_listed, fine, if_pos rfl, unread]
      rfl

/-! ## Pages that follow one another -/

/-- The first so many pages have come, one after the other, with these acts. -/
inductive Came (hub : Hub) (host : Host σ) (s : σ) : Nat → List Act → σ → Prop where
  | none : Came hub host s 0 [] s
  | next {count : Nat} {gets : List Act} {t : σ} {request : Http.Request} {batch : List Repository}
      (before : Came hub host s count gets t)
      (comes : hub.PageComes host (count + 1) t request batch) :
      Came hub host s (count + 1) (gets ++ [.fetched request (host.fetch request t).1])
        (host.fetch request t).2

def FetchesPages (hub : Hub) (pages : List Nat) (gets : List Act) : Prop :=
  List.Forall₂ (fun page act => ∃ request reply, hub.pageRequest? page = some request ∧
    act = .fetched request reply) pages gets

theorem Came.fetches {count : Nat} {gets : List Act} (came : hub.Came host s count gets t) :
    hub.FetchesPages (List.range' 1 count) gets := by
  induction came with
  | none => exact .nil
  | @next count gets t request batch _ comes ih =>
      rw [List.range'_1_concat, Nat.add_comm 1 count]
      exact List.rel_append ih (.cons ⟨request, _, comes.made, rfl⟩ .nil)

/-- The first so many pages come, or one of them does not. -/
theorem came_or_fails (hub : Hub) (host : Host σ) (s : σ) (count : Nat) :
    (∃ gets t, hub.Came host s count gets t) ∨
      ∃ k < count, ∃ gets t cause, hub.Came host s k gets t ∧ hub.PageFails host (k + 1) t cause := by
  induction count with
  | zero => exact Or.inl ⟨[], s, .none⟩
  | succ count ih =>
      rcases ih with ⟨gets, t, came⟩ | ⟨k, early, failed⟩
      · rcases page_comes_or_fails hub host (count + 1) t with ⟨request, batch, comes⟩ | ⟨cause, fails⟩
        · exact Or.inl ⟨_, _, came.next comes⟩
        · exact Or.inr ⟨count, Nat.lt_succ_self count, gets, t, cause, came, fails⟩
      · exact Or.inr ⟨k, Nat.lt_succ_of_lt early, failed⟩

/-! ## Whole listings -/

/-- These are the organization's repositories in a fixed order: each page that comes has its part of
them. -/
def ServesRepositories (hub : Hub) (host : Host σ) (all : List Repository) : Prop :=
  ∀ page s request batch, 0 < page → hub.PageComes host page s request batch →
    batch = pageOf all (some page)

def pageCount {α : Type} (all : List α) : Nat := all.length / pageSize + 1

section

variable {α : Type} (all : List α) (k : Nat)

theorem pageOf_succ : pageOf all (some (k + 1)) = (all.drop (k * pageSize)).take pageSize := rfl

theorem take_append_pageOf :
    all.take (k * pageSize) ++ pageOf all (some (k + 1)) = all.take ((k + 1) * pageSize) := by
  rw [pageOf_succ, Nat.succ_mul, List.take_add]

variable {all k}

theorem pageOf_full (full : (k + 1) * pageSize ≤ all.length) :
    ¬(pageOf all (some (k + 1))).length < pageSize := by
  rw [Nat.succ_mul] at full
  rw [pageOf_succ, List.length_take, List.length_drop]
  omega

theorem pageOf_short (last : all.length < (k + 1) * pageSize) :
    (pageOf all (some (k + 1))).length < pageSize := by
  have size : 0 < pageSize := by decide
  rw [Nat.succ_mul] at last
  rw [pageOf_succ, List.length_take, List.length_drop]
  omega

end

variable {all : List Repository} {k count : Nat} {gets : List Act}

/-- After some full pages have come, a listing goes on from the page behind them. -/
theorem Came.listing (served : hub.ServesRepositories host all)
    (came : hub.Came host s k gets t) (full : k * pageSize ≤ all.length)
    {outcome : Except Error (List Repository)} {v : σ × List Act}
    (others : hub.Listing host.journaled.toWeb (k + 1) count (t, acts ++ gets) outcome v) :
    hub.Listing host.journaled.toWeb 1 (k + count) (s, acts)
      (outcome.map (all.take (k * pageSize) ++ ·)) v := by
  induction came generalizing count outcome with
  | none =>
      have same : outcome.map (all.take (0 * pageSize) ++ ·) = outcome := by
        cases outcome <;> simp [Except.map]
      rw [same, Nat.zero_add]
      simpa using others
  | @next k gets t request batch before comes ih =>
      have fullBefore : k * pageSize ≤ all.length :=
        Nat.le_trans (Nat.mul_le_mul_right _ (Nat.le_succ k)) full
      have part : batch = pageOf all (some (k + 1)) :=
        served (k + 1) t request batch (Nat.succ_pos k) comes
      have fullPage : ¬batch.length < pageSize := by
        rw [part]
        exact pageOf_full full
      rw [← List.append_assoc] at others
      have grown := ih fullBefore (.goesOn (comes.run _) fullPage others)
      have joined : (outcome.map (batch ++ ·)).map (all.take (k * pageSize) ++ ·) =
          outcome.map (all.take ((k + 1) * pageSize) ++ ·) := by
        cases outcome with
        | error => rfl
        | ok rest =>
            rw [← take_append_pageOf, ← part]
            simp [Except.map]
      rw [joined] at grown
      rwa [Nat.succ_add_eq_add_succ]

/-- A listing of everything ends so after so many pages, with these acts. -/
structure Lists (hub : Hub) (host : Host σ) (s : σ) (acts : List Act) (pages : Nat)
    (outcome : Except Error (List Repository)) (gets : List Act) (t : σ) : Prop where
  listing : hub.Listing host.journaled.toWeb 1 pages (s, acts) outcome (t, acts ++ gets)
  run : pages ≤ host.pageLimit →
    (hub.repositories host.journaled.toWeb).run (s, acts) = (outcome, (t, acts ++ gets))

theorem lists_of_listing {pages : Nat} {outcome : Except Error (List Repository)}
    (listing : hub.Listing host.journaled.toWeb 1 pages (s, acts) outcome (t, acts ++ gets)) :
    hub.Lists host s acts pages outcome gets t :=
  ⟨listing, fun within => listing.run_eq within⟩

/-- Everything is listed, in its order, if all the pages come, each of which is asked for once, in
turn; the first page that does not come ends the listing with its error.  One of the two is so. -/
structure ListsAll (hub : Hub) (host : Host σ) (all : List Repository) (s : σ) (acts : List Act) :
    Prop where
  whole : ∀ gets t, hub.Came host s (pageCount all) gets t →
    hub.FetchesPages (List.range' 1 (pageCount all)) gets ∧
      hub.Lists host s acts (pageCount all) (.ok all) gets t
  broken : ∀ k < pageCount all, ∀ gets t cause, hub.Came host s k gets t →
    hub.PageFails host (k + 1) t cause → hub.FetchesPages (List.range' 1 k) gets ∧
      ∃ u, hub.Lists host s acts (k + 1) (.error cause)
        (gets ++ host.fetchNote (hub.pageRequest? (k + 1)) t) u
  either : (∃ gets t, hub.Came host s (pageCount all) gets t) ∨
    ∃ k < pageCount all, ∃ gets t cause, hub.Came host s k gets t ∧
      hub.PageFails host (k + 1) t cause

theorem fullPages_le (all : List Repository) : all.length / pageSize * pageSize ≤ all.length :=
  Nat.div_mul_le_self _ _

theorem lt_pageCount (all : List Repository) : all.length < pageCount all * pageSize := by
  rw [Nat.mul_comm]
  exact Nat.lt_mul_div_succ all.length (by decide)

/-- When all pages have come, all is listed. -/
theorem lists_of_came (served : hub.ServesRepositories host all) (acts : List Act)
    (came : hub.Came host s (pageCount all) gets t) :
    hub.Lists host s acts (pageCount all) (.ok all) gets t := by
  generalize pages : pageCount all = count at came
  cases came with
  | none => cases pages
  | @next k gets t request batch before comes =>
      have last := lt_pageCount all
      rw [pages] at last
      obtain rfl : all.length / pageSize = k := Nat.succ.inj pages
      have part := served _ t request batch (Nat.succ_pos _) comes
      have short : batch.length < pageSize := by
        rw [part]
        exact pageOf_short last
      have everything : all.take (all.length / pageSize * pageSize) ++ batch = all := by
        rw [part, take_append_pageOf]
        exact List.take_of_length_le (Nat.le_of_lt last)
      have listing := before.listing served (fullPages_le all)
        (.ends (comes.run (acts ++ gets)) short)
      rw [Except.map, everything, List.append_assoc] at listing
      exact lists_of_listing listing

/-- A page that does not come ends the listing. -/
theorem lists_of_failure (served : hub.ServesRepositories host all) (acts : List Act)
    (early : k < pageCount all) (came : hub.Came host s k gets t)
    (fails : hub.PageFails host (k + 1) t cause) :
    ∃ u, hub.Lists host s acts (k + 1) (.error cause)
      (gets ++ host.fetchNote (hub.pageRequest? (k + 1)) t) u := by
  have full : k * pageSize ≤ all.length :=
    Nat.le_trans (Nat.mul_le_mul_right _ (Nat.le_of_lt_succ early)) (fullPages_le all)
  obtain ⟨u, failed⟩ := fails.run (acts ++ gets)
  have listing := came.listing served full (.fails failed)
  rw [Except.map, List.append_assoc] at listing
  exact ⟨u, lists_of_listing listing⟩

/-- Listing the repositories of an organization misses none and repeats none. -/
theorem repositories_listsAll (hub : Hub) (host : Host σ) {all : List Repository}
    (served : hub.ServesRepositories host all) (s : σ) (acts : List Act) :
    hub.ListsAll host all s acts where
  whole _ _ came := ⟨came.fetches, lists_of_came served acts came⟩
  broken _ early _ _ _ came fails := ⟨came.fetches, lists_of_failure served acts early came fails⟩
  either := came_or_fails hub host s (pageCount all)

end Hub

/-! ## A service -/

namespace Repository

open Codec Parts Shape

/-- The only timestamp is the time when the repository was made. -/
def shape : Shape Repository :=
  Shape.timestamp.through (·.createdAt) (fun r t => { r with createdAt := t }) fun _ => rfl

theorem normal : Repository.codec.Normal shape :=
  normal_record (keep_make shape Repository.mk
    |>.and (keep_text fun _ => rfl)
    |>.and (keep_defaulted normal_text (untouched fun _ => rfl) trivial)
    |>.and (keep_defaulted normal_text (untouched fun _ => rfl) trivial)
    |>.and (keep_required normal_timestamp (through_field fun _ _ => rfl)))
    (by decide) (fun _ _ _ _ _ _ _ known => known) fun _ => rfl

theorem exact_written (r : Repository) (depth : Nat) :
    Json.Exact (depth + 1) (Repository.codec.write r) :=
  (written_make _ r
    |>.and (written_required .str)
    |>.and (written_defaulted .str)
    |>.and (written_defaulted .str)
    |>.and (written_required .str)).record

/-- The time when the repository was made can be written: it is a whole second of a year with four
digits. -/
def Dated (r : Repository) : Prop :=
  r.createdAt.Known ∧ r.createdAt.InEra ∧ r.createdAt.nanos = 0

def body (repositories : List Repository) : List UInt8 :=
  Utf8.encode (Json.compact (Repository.codec.list.write repositories))

theorem accept_body {repositories : List Repository} (dated : ∀ r ∈ repositories, r.Dated)
    (action : String) :
    Hub.accept Repository.codec.list action (200, body repositories) = .ok repositories := by
  refine Hub.accept_written normal (fun r listed => (dated r listed).1) ?_
    (fun r _ => exact_written r 125) action
  intro r listed t inside
  obtain rfl := List.mem_singleton.mp inside
  exact (dated r listed).2

theorem listed?_body {repositories : List Repository} (dated : ∀ r ∈ repositories, r.Dated) :
    listed? (body repositories) = some repositories := by
  have accepted := accept_body dated ""
  rw [Hub.accept_listed] at accepted
  cases read : listed? (body repositories) with
  | none =>
      rw [read] at accepted
      cases accepted
  | some others =>
      rw [read] at accepted
      cases accepted
      rfl

end Repository

namespace Rehearsal

def repositoriesHost (all : List Repository) : Host Unit :=
  { pullsHost [] with
    fetch := fun request s =>
      (.answer 200 (Repository.body (Hub.pageOf all (pageAsked (request.url.query.getD [])))), s) }

def repositoriesRequest (page : Nat) : Http.Request :=
  openHub.requestAt "GET" "orgs/redhat-appstudio/repos".toList (Hub.pageQuery (some page))

theorem pageRequest?_openHub (page : Nat) :
    openHub.pageRequest? page = some (repositoriesRequest page) :=
  openHub_request? (by decide) (Hub.pageQuery (some page))

variable {all : List Repository}

/-- Every page comes, in any order. -/
theorem pageComes_repositoriesHost (dated : ∀ r ∈ all, r.Dated) (page : Nat) :
    openHub.PageComes (repositoriesHost all) page () (repositoriesRequest page)
      (Hub.pageOf all (some page)) where
  made := pageRequest?_openHub page
  answered := by
    have asked : pageAsked ((repositoriesRequest page).url.query.getD []) = some page :=
      pageAsked_requestAt (by decide +kernel) (some page)
    refine ⟨200, Repository.body (Hub.pageOf all (some page)), ?_, by decide, ?_⟩
    · unfold repositoriesHost
      dsimp only
      rw [asked]
    · exact Repository.listed?_body fun r member =>
        dated r (List.mem_of_mem_drop (List.mem_of_mem_take member))

theorem serves_repositoriesHost (dated : ∀ r ∈ all, r.Dated) :
    openHub.ServesRepositories (repositoriesHost all) all := by
  intro page s request batch _ comes
  obtain ⟨made, status, body, answered, _, read⟩ := comes
  obtain ⟨made', status', body', answered', _, read'⟩ := pageComes_repositoriesHost dated page
  cases made.symm.trans made'
  cases answered.symm.trans answered'
  exact Option.some.inj (read.symm.trans read')

theorem came_repositoriesHost (dated : ∀ r ∈ all, r.Dated) (count : Nat) :
    ∃ gets, openHub.Came (repositoriesHost all) () count gets () := by
  induction count with
  | zero => exact ⟨[], .none⟩
  | succ count ih =>
      obtain ⟨gets, came⟩ := ih
      exact ⟨_, came.next (pageComes_repositoriesHost dated (count + 1))⟩

def noon : Timestamp := ⟨⟨2024, 3, 10⟩, 720, 0, 0⟩

theorem noon_known : noon.Known := by constructor <;> decide

theorem noon_inEra : noon.InEra := by constructor <;> decide

def twoHundred : List Repository :=
  (List.range 200).map fun n => ⟨"repository-" ++ Nat.repr n, "", "", noon⟩

/-- Full pages are followed by an empty one. -/
theorem twoHundred_listed :
    openHub.ServesRepositories (repositoriesHost twoHundred) twoHundred ∧
      Hub.pageCount twoHundred = 3 ∧
      ∃ gets, openHub.FetchesPages [1, 2, 3] gets ∧
        (openHub.repositories (repositoriesHost twoHundred).journaled.toWeb).run ((), []) =
          (.ok twoHundred, ((), gets)) := by
  have dated : ∀ r ∈ twoHundred, r.Dated := by
    intro r listed
    obtain ⟨n, _, rfl⟩ := List.mem_map.mp listed
    exact ⟨noon_known, noon_inEra, rfl⟩
  have served := serves_repositoriesHost dated
  have count : Hub.pageCount twoHundred = 3 := by
    simp [Hub.pageCount, twoHundred, Hub.pageSize]
  obtain ⟨gets, came⟩ := came_repositoriesHost dated 3
  have listed := Hub.repositories_listsAll openHub (repositoriesHost twoHundred) served () []
  rw [← count] at came
  obtain ⟨fetches, lists⟩ := listed.whole gets () came
  rw [count] at fetches lists
  exact ⟨served, count, gets, fetches, lists.run (by decide)⟩

end Rehearsal

end ClusterHarness
