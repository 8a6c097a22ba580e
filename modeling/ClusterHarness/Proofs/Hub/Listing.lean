import ClusterHarness.Hub.Client
import ClusterHarness.Proofs.Host.Journaled
import ClusterHarness.Proofs.Http.Locators
import ClusterHarness.Proofs.Resource.Codecs

/-!
# Requests to the code hosting service

Every path below the service makes a request, if the token can be sent at all.  A listing goes
from page to page up to one that is not full, and all it does is to get pages.
-/

namespace ClusterHarness

variable {σ : Type}

/-- Repositories that are read were made at a time that the calendar has. -/
theorem Repository.gives_createdAt : Repository.codec.Gives fun r => r.createdAt.Known := by
  apply Codec.gives_record
  -- part by part, from the last one back: what is still to be read decides on the time
  refine Parts.Give.and (P := fun f => ∀ t, (f t).createdAt = t) ?_
    (Parts.give_required Codec.gives_timestamp) fun f t made known => (made t).symm ▸ known
  refine Parts.Give.and (P := fun f => ∀ url t, (f url t).createdAt = t) ?_
    (Parts.give_true _) fun f url made _ => made url
  refine Parts.Give.and (P := fun f => ∀ full url t, (f full url t).createdAt = t) ?_
    (Parts.give_true _) fun f full made _ => made full
  refine Parts.Give.and (P := fun f => ∀ name full url t, (f name full url t).createdAt = t) ?_
    (Parts.give_true _) fun f name made _ => made name
  exact Parts.give_make fun _ _ _ _ => rfl

namespace Hub

/-! ## Requests -/

def headers (hub : Hub) : List (String × String) :=
  [("accept", "application/vnd.github+json"), ("user-agent", userAgent)]
    ++ (hub.token.map fun token => ("authorization", "Bearer " ++ token)).toList

def apiHost : List Char := "api.github.com".toList

def requestAt (hub : Hub) (method : String) (path : List Char) (query : List (String × String)) :
    Http.Request where
  method := method
  url := (Url.below apiHost path).addQuery query
  headers := hub.headers.map fun h => (h.1, Text.trimmed h.2)
  body := []

/-- A path below the service makes a request exactly if all headers can be sent. -/
theorem request?_eq (token : Option String) (org : String) {path : String} {rest : List Char}
    (below : path.toList = '/' :: rest) (method : String) (query : List (String × String)) :
    (ofSettings token org).request? method path query =
      if (ofSettings token org).headers.all fun h => Http.isHeaderValue h.2 then
        some ((ofSettings token org).requestAt method rest query)
      else none := by
  have visible : ∀ c ∈ apiHost, Url.InAuthority c := by
    have each : (apiHost.all fun c => decide (Url.InAuthority c)) = true := by decide
    exact fun c member => of_decide_eq_true (List.all_eq_true.mp each c member)
  have known : Url.readAuthority true apiHost = .ok (apiHost, none) := by decide +kernel
  have base : (ofSettings token org).base = "https://api.github.com" := rfl
  have address : ((ofSettings token org).base ++ path).toList =
      "https://".toList ++ (apiHost ++ '/' :: rest) := by
    rw [base, String.toList_append, below]
    rfl
  have read := Url.read_below visible (List.cons_ne_nil _ _) known rest
  unfold request? Http.Request.make?
  rw [address, read]
  rfl

/-- The request deletes a repository; a plain name of a plainly named organization stands in its
path as it is. -/
structure Deletes (hub : Hub) (r : Repository) (request : Http.Request) : Prop where
  made : hub.request? "DELETE" ("/repos/" ++ hub.org ++ "/" ++ r.name) [] = some request
  method : request.method = "DELETE"
  url : Url.PlainSegment hub.org.toList → Url.PlainSegment r.name.toList →
    request.url = ⟨"https".toList, apiHost, none,
      .segments ["repos".toList, hub.org.toList, r.name.toList], none⟩

/-- A service that can be asked for anything can be asked to delete any repository. -/
theorem exists_deletes {token : Option String} {org method path : String} {rest : List Char}
    {query : List (String × String)} {asked : Http.Request} (below : path.toList = '/' :: rest)
    (ready : (ofSettings token org).request? method path query = some asked) (r : Repository) :
    ∃ request, (ofSettings token org).Deletes r request := by
  rw [request?_eq token org below] at ready
  have valid := (Option.ite_none_right_eq_some.mp ready).1
  have place : ("/repos/" ++ org ++ "/" ++ r.name).toList =
      '/' :: Text.join '/' ["repos".toList, org.toList, r.name.toList] := by
    simp [Text.join]
  have made := request?_eq token org place "DELETE" []
  rw [if_pos valid] at made
  refine ⟨_, made, rfl, fun plainOrg plainName => ?_⟩
  have plain : ∀ s ∈ ["repos".toList, org.toList, r.name.toList], Url.PlainSegment s := by
    have repos : Url.PlainSegment "repos".toList :=
      ⟨List.all_eq_true.mp rfl, by decide, by decide⟩
    simpa using ⟨repos, plainOrg, plainName⟩
  exact Url.below_join plain (List.cons_ne_nil _ _) apiHost

/-! ## Requests on a host with a journal -/

variable (hub : Hub) (host : Host σ)

theorem journaled_send (action method path : String) (query : List (String × String)) (s : σ)
    (acts : List Act) :
    (hub.send host.journaled.toWeb action method path query).run (s, acts) =
      (((hub.send host.toWeb action method path query).run s).1,
        (((hub.send host.toWeb action method path query).run s).2,
          acts ++ host.fetchNote (hub.request? method path query) s)) := by
  unfold send
  rw [ExceptT.run_mk, stateM_bind_apply, ExceptT.run_mk, stateM_bind_apply,
    host.journaled_exchange]
  cases (host.toWeb.exchange (hub.request? method path query) s).1 <;> rfl

theorem journaled_fetch {α : Type} (codec : Codec α) (action path : String)
    (query : List (String × String)) (s : σ) (acts : List Act) :
    (hub.fetch host.journaled.toWeb codec action path query).run (s, acts) =
      (((hub.fetch host.toWeb codec action path query).run s).1,
        (((hub.fetch host.toWeb codec action path query).run s).2,
          acts ++ host.fetchNote (hub.request? "GET" path query) s)) := by
  unfold fetch
  rw [exceptT_run_bind, exceptT_run_bind, journaled_send]
  obtain ⟨_ | _, _⟩ := (hub.send host.toWeb action "GET" path query).run s <;> rfl

theorem journaled_deleteRepository (name : String) (s : σ) (acts : List Act) :
    (hub.deleteRepository host.journaled.toWeb name).run (s, acts) =
      (((hub.deleteRepository host.toWeb name).run s).1,
        (((hub.deleteRepository host.toWeb name).run s).2,
          acts ++ host.fetchNote
            (hub.request? "DELETE" ("/repos/" ++ hub.org ++ "/" ++ name) []) s)) := by
  unfold deleteRepository
  dsimp only
  rw [exceptT_run_bind, exceptT_run_bind, journaled_send]
  obtain ⟨_ | _, _⟩ := (hub.send host.toWeb _ "DELETE" _ []).run s <;> rfl

end Hub

/-- Something is read from the web, and nothing changed. -/
def Act.Gets (act : Act) : Prop :=
  ∃ request reply, act = .fetched request reply ∧ request.method = "GET"

theorem Http.Request.method_of_make? {method url : String} {query headers : List (String × String)}
    {body : List UInt8} {request : Http.Request}
    (made : make? method url query headers body = some request) : request.method = method := by
  unfold make? at made
  split at made
  · cases made
  · cases (Option.ite_none_right_eq_some.mp made).2
    rfl

namespace Hub

theorem gets_of_note {hub : Hub} {host : Host σ} {path : String} {query : List (String × String)}
    {s : σ} {act : Act} (noted : act ∈ host.fetchNote (hub.request? "GET" path query) s) :
    act.Gets := by
  obtain ⟨request, made, rfl⟩ : ∃ request, hub.request? "GET" path query = some request ∧
      .fetched request (host.fetch request s).1 = act := by
    simpa [Host.fetchNote] using noted
  exact ⟨request, _, rfl, Http.Request.method_of_make? made⟩

/-- All that it takes to get a page is to get it. -/
theorem journaled_repositoryPage (hub : Hub) (host : Host σ) (page : Nat) (s : σ)
    (acts : List Act) :
    ∃ gets : List Act, (∀ act ∈ gets, act.Gets) ∧
      (hub.repositoryPage host.journaled.toWeb page).run (s, acts) =
        (((hub.repositoryPage host.toWeb page).run s).1,
          (((hub.repositoryPage host.toWeb page).run s).2, acts ++ gets)) :=
  ⟨_, fun _ => gets_of_note, hub.journaled_fetch host _ _ _ _ s acts⟩

/-! ## Listings -/

/-- A listing from a page on that takes so many pages, its outcome, and the states it leads from and
to: it ends with a page that fails or is not full. -/
inductive Listing (hub : Hub) (web : Web σ) :
    Nat → Nat → σ → Except Error (List Repository) → σ → Prop where
  | fails {page : Nat} {s t : σ} {cause : Error}
      (failed : (hub.repositoryPage web page).run s = (.error cause, t)) :
      Listing hub web page 1 s (.error cause) t
  | ends {page : Nat} {s t : σ} {batch : List Repository}
      (got : (hub.repositoryPage web page).run s = (.ok batch, t))
      (short : batch.length < pageSize) :
      Listing hub web page 1 s (.ok batch) t
  | goesOn {page count : Nat} {s t u : σ} {batch : List Repository}
      {rest : Except Error (List Repository)}
      (got : (hub.repositoryPage web page).run s = (.ok batch, t))
      (full : ¬batch.length < pageSize) (others : Listing hub web (page + 1) count t rest u) :
      Listing hub web page (count + 1) s (rest.map (batch ++ ·)) u

theorem repositoriesFrom_run (hub : Hub) (web : Web σ) (pages page : Nat) (s : σ) :
    (hub.repositoriesFrom web (pages + 1) page).run s =
      match (hub.repositoryPage web page).run s with
      | (.error cause, t) => (.error cause, t)
      | (.ok batch, t) =>
        if batch.length < pageSize then (.ok batch, t)
        else
          (((hub.repositoriesFrom web pages (page + 1)).run t).1.map (batch ++ ·),
            ((hub.repositoriesFrom web pages (page + 1)).run t).2) := by
  rw [repositoriesFrom, exceptT_run_bind]
  obtain ⟨cause | batch, t⟩ := (hub.repositoryPage web page).run s
  · rfl
  · dsimp only
    split
    · rfl
    · rw [exceptT_run_bind]
      obtain ⟨_ | _, _⟩ := (hub.repositoriesFrom web pages (page + 1)).run t <;> rfl

/-- A page comes back only to a request that can be sent. -/
theorem exists_request_of_page {hub : Hub} {web : Web σ} {page : Nat} {s t : σ}
    {batch : List Repository} (got : (hub.repositoryPage web page).run s = (.ok batch, t)) :
    ∃ request, hub.request? "GET" ("/orgs/" ++ hub.org ++ "/repos")
      [("per_page", Nat.repr pageSize), ("page", Nat.repr page)] = some request := by
  obtain ⟨answer, u, sent, _⟩ := exceptT_run_bind_eq_ok.mp got
  cases made : hub.request? "GET" ("/orgs/" ++ hub.org ++ "/repos")
      [("per_page", Nat.repr pageSize), ("page", Nat.repr page)] with
  | some request => exact ⟨request, rfl⟩
  | none =>
      unfold send at sent
      rw [ExceptT.run_mk, stateM_bind_apply, made] at sent
      cases sent

/-- What is accepted was read from the body. -/
theorem holds_of_accept {α : Type} {c : Codec α} {P : α → Prop} (gives : c.Gives P)
    {action : String} {answer : Nat × List UInt8} {a : α}
    (accepted : accept c action answer = .ok a) : P a := by
  unfold accept at accepted
  cases checked : checkStatus action answer with
  | error cause =>
      rw [checked] at accepted
      cases accepted
  | ok =>
      rw [checked] at accepted
      cases read : (Utf8.decode answer.2).toOption.bind fun text =>
          (Json.parse? text).bind c.read with
      | none =>
          rw [read] at accepted
          cases accepted
      | some b =>
          rw [read] at accepted
          cases accepted
          obtain ⟨_, _, read⟩ := Option.bind_eq_some_iff.mp read
          obtain ⟨j, _, read⟩ := Option.bind_eq_some_iff.mp read
          exact gives j a read

/-- All on a page was made at a time that the calendar has. -/
theorem known_of_page {hub : Hub} {web : Web σ} {page : Nat} {s t : σ} {batch : List Repository}
    (got : (hub.repositoryPage web page).run s = (.ok batch, t)) :
    ∀ r ∈ batch, r.createdAt.Known := by
  obtain ⟨answer, u, _, accepted⟩ := exceptT_run_bind_eq_ok.mp got
  exact holds_of_accept (Codec.gives_list Repository.gives_createdAt) (congrArg Prod.fst accepted)

/-- All that is listed was made at a time that the calendar has. -/
theorem Listing.known {hub : Hub} {web : Web σ} {page count : Nat} {s t : σ}
    {outcome : Except Error (List Repository)} (listing : hub.Listing web page count s outcome t)
    {all : List Repository} (listed : outcome = .ok all) : ∀ r ∈ all, r.createdAt.Known := by
  induction listing generalizing all with
  | fails => cases listed
  | ends got =>
      cases listed
      exact known_of_page got
  | @goesOn _ _ _ _ _ _ rest got _ _ ih =>
      cases rest with
      | error => cases listed
      | ok others =>
          cases listed
          exact List.forall_mem_append.mpr ⟨known_of_page got, ih rfl⟩

theorem Listing.exists_request {hub : Hub} {web : Web σ} {page count : Nat} {s t : σ}
    {all : List Repository} (listing : hub.Listing web page count s (.ok all) t) :
    ∃ query request, hub.request? "GET" ("/orgs/" ++ hub.org ++ "/repos") query = some request := by
  generalize same : (Except.ok all : Except Error (List Repository)) = outcome at listing
  cases listing with
  | fails => cases same
  | ends got => exact ⟨_, exists_request_of_page got⟩
  | goesOn got => exact ⟨_, exists_request_of_page got⟩

/-- A listing that ends soon enough is followed to its end. -/
theorem Listing.run_eq {hub : Hub} {web : Web σ} {page count : Nat} {s t : σ}
    {outcome : Except Error (List Repository)} (listing : hub.Listing web page count s outcome t)
    {pages : Nat} (within : count ≤ pages) :
    (hub.repositoriesFrom web pages page).run s = (outcome, t) := by
  induction listing generalizing pages with
  | fails failed =>
      obtain ⟨left, rfl⟩ := Nat.exists_eq_add_of_le' within
      rw [repositoriesFrom_run, failed]
  | ends got short =>
      obtain ⟨left, rfl⟩ := Nat.exists_eq_add_of_le' within
      rw [repositoriesFrom_run, got]
      exact if_pos short
  | goesOn got full _ ih =>
      obtain ⟨left, rfl⟩ := Nat.exists_eq_add_of_le' (Nat.le_trans (Nat.le_add_left 1 _) within)
      rw [repositoriesFrom_run, got]
      dsimp only
      rw [if_neg full, ih (Nat.le_of_succ_le_succ within)]

/-- A listing is followed to its end or, if that is too far, given up. -/
theorem listing_or_unsettled (hub : Hub) (web : Web σ) (pages page : Nat) (s : σ) :
    (∃ count ≤ pages, ∃ outcome t, hub.Listing web page count s outcome t) ∨
      ((hub.repositoriesFrom web pages page).run s).1 = .error (.unsettled hub.listing) := by
  induction pages generalizing page s with
  | zero => exact Or.inr rfl
  | succ pages ih =>
      cases ran : (hub.repositoryPage web page).run s with
      | mk result t =>
          have soon : 1 ≤ pages + 1 := Nat.le_add_left 1 pages
          cases result with
          | error cause => exact Or.inl ⟨1, soon, _, t, .fails ran⟩
          | ok batch =>
              by_cases short : batch.length < pageSize
              · exact Or.inl ⟨1, soon, _, t, .ends ran short⟩
              · rcases ih (page + 1) t with ⟨count, within, rest, u, others⟩ | unsettled
                · exact Or.inl ⟨count + 1, Nat.succ_le_succ within, _, u, .goesOn ran short others⟩
                · refine Or.inr ?_
                  rw [repositoriesFrom_run, ran]
                  dsimp only
                  rw [if_neg short, unsettled]
                  rfl

/-- What is listed was listed page by page. -/
theorem listing_of_ok {hub : Hub} {web : Web σ} {pages page : Nat} {s t : σ}
    {all : List Repository}
    (listed : (hub.repositoriesFrom web pages page).run s = (.ok all, t)) :
    ∃ count ≤ pages, hub.Listing web page count s (.ok all) t := by
  rcases hub.listing_or_unsettled web pages page s with
    ⟨count, within, outcome, u, listing⟩ | unsettled
  · cases listed.symm.trans (listing.run_eq within)
    exact ⟨count, within, listing⟩
  · cases unsettled.symm.trans (congrArg Prod.fst listed)

/-- All that a listing does is to get pages. -/
theorem journaled_repositoriesFrom (hub : Hub) (host : Host σ) (pages page : Nat) (s : σ)
    (acts : List Act) :
    ∃ gets : List Act, (∀ act ∈ gets, act.Gets) ∧
      (hub.repositoriesFrom host.journaled.toWeb pages page).run (s, acts) =
        (((hub.repositoriesFrom host.toWeb pages page).run s).1,
          (((hub.repositoriesFrom host.toWeb pages page).run s).2, acts ++ gets)) := by
  induction pages generalizing page s acts with
  | zero => exact ⟨[], nofun, by rw [List.append_nil]; rfl⟩
  | succ pages ih =>
      obtain ⟨first, getsFirst, ran⟩ := hub.journaled_repositoryPage host page s acts
      rw [repositoriesFrom_run, repositoriesFrom_run, ran]
      obtain ⟨cause | batch, t⟩ := (hub.repositoryPage host.toWeb page).run s
      · exact ⟨first, getsFirst, rfl⟩
      · obtain ⟨others, getsOthers, ranOn⟩ := ih (page + 1) t (acts ++ first)
        dsimp only
        by_cases short : batch.length < pageSize
        · exact ⟨first, getsFirst, by rw [if_pos short, if_pos short]⟩
        · refine ⟨first ++ others, List.forall_mem_append.mpr ⟨getsFirst, getsOthers⟩, ?_⟩
          rw [if_neg short, if_neg short, ranOn, List.append_assoc]

end Hub

end ClusterHarness
