import ClusterHarness.Proofs.Hub.Listing
import ClusterHarness.Proofs.Time.Calendar
import ClusterHarness.Rehearsal.Host
import ClusterHarness.Workflow.Cleanup

/-!
# What a cleanup deletes

A cleanup lists first and deletes then: the repositories with a name that matches and more than 24
hours old, one after the other, and whatever becomes of a deletion the next one follows.  Nothing
is deleted in a dry run, or if a page of the listing is not to be had.
-/

namespace ClusterHarness

variable {σ : Type}

/-- Stale is what has such a name and was made more than 24 hours before. -/
theorem Repository.isStale_eq {now : Timestamp} {r : Repository} (known : now.Known)
    (known' : r.createdAt.Known) (named : String → Bool) :
    r.isStale named now =
      (decide (r.createdAt.lastInstant < now.instant - Timestamp.nanosPerDay) && named r.name) := by
  have earlier : r.createdAt.before now.dayEarlier =
      decide (r.createdAt.lastInstant < now.instant - Timestamp.nanosPerDay) :=
    Bool.eq_iff_iff.mpr
      ((Timestamp.before_dayEarlier_iff known' known).trans decide_eq_true_iff.symm)
  unfold isStale
  rw [earlier]

namespace Cleanup

def hub (cleanup : Cleanup) : Hub := Hub.ofSettings (some cleanup.token) cleanup.org

theorem journaled_list (host : Host σ) (repositories : List Repository) (s : σ)
    (acts : List Act) :
    ∃ t, (list host.journaled repositories).run (s, acts) = (.ok (), (t, acts)) := by
  induction repositories generalizing s with
  | nil => exact ⟨s, rfl⟩
  | cons r rest ih =>
      rw [list, Host.journaled_tell_bind]
      exact ih _

/-- The act is an attempt to delete a repository. -/
def Deletion (hub : Hub) (r : Repository) (act : Act) : Prop :=
  ∃ request reply, act = .fetched request reply ∧ hub.Deletes r request

/-- Whatever becomes of a deletion, the next one follows. -/
theorem journaled_deleteAll (host : Host σ) {hub : Hub}
    (ready : ∀ r, ∃ request, hub.Deletes r request) (stale : List Repository) (s : σ)
    (acts : List Act) :
    ∃ deletions t, (deleteAll host.journaled hub stale).run (s, acts) =
        (.ok (), (t, acts ++ deletions)) ∧
      List.Forall₂ (Deletion hub) stale deletions := by
  induction stale generalizing s acts with
  | nil => exact ⟨[], s, by rw [List.append_nil]; rfl, .nil⟩
  | cons r rest ih =>
      obtain ⟨request, deletes⟩ := ready r
      have deleted := hub.journaled_deleteRepository host r.name s acts
      rw [deletes.made] at deleted
      have note : host.fetchNote (some request) s =
        [Act.fetched request (host.fetch request s).1] := rfl
      rw [note] at deleted
      have goesOn : ∃ u, (deleteAll host.journaled hub (r :: rest)).run (s, acts) =
          (deleteAll host.journaled hub rest).run
            (u, acts ++ [Act.fetched request (host.fetch request s).1]) := by
        rw [deleteAll, Errand.run_attempt_bind, Errand.run_ofSession, deleted]
        cases ((hub.deleteRepository host.toWeb r.name).run s).1 with
        | ok => exact ⟨_, host.journaled_tell_bind ..⟩
        | error => exact ⟨_, host.journaled_tell_bind ..⟩
      obtain ⟨u, ran⟩ := goesOn
      obtain ⟨deletions, t, others, all⟩ :=
        ih u (acts ++ [Act.fetched request (host.fetch request s).1])
      refine ⟨Act.fetched request (host.fetch request s).1 :: deletions, t, ?_, ?_⟩
      · rw [ran, others, List.append_assoc, List.singleton_append]
      · exact .cons ⟨request, _, rfl, deletes⟩ all

/-! ## Whole runs -/

def finish (cleanup : Cleanup) (host : Host σ) (stale : List Repository) : Errand σ Unit :=
  if stale.isEmpty then host.tell (.info ("Nothing to clean up in " ++ cleanup.hub.org))
  else if cleanup.dryRun then do
    host.tell (.info "Dry run, would delete:")
    list host stale
  else deleteAll host cleanup.hub stale

/-- Only a dry run leaves stale repositories alone, and it leaves all. -/
theorem journaled_finish (cleanup : Cleanup) (host : Host σ)
    (ready : ∀ r, ∃ request, cleanup.hub.Deletes r request) (stale : List Repository) (s : σ)
    (acts : List Act) :
    ∃ deletions t, (cleanup.finish host.journaled stale).run (s, acts) =
        (.ok (), (t, acts ++ deletions)) ∧
      (cleanup.dryRun = true → deletions = []) ∧
      (cleanup.dryRun = false → List.Forall₂ (Deletion cleanup.hub) stale deletions) := by
  unfold finish
  cases stale with
  | nil =>
      refine ⟨[], host.told (.info ("Nothing to clean up in " ++ cleanup.hub.org)) s, ?_,
        fun _ => rfl, fun _ => .nil⟩
      rw [List.append_nil, if_pos List.isEmpty_nil, Host.run_tell, host.journaled_told]
  | cons r rest =>
      rw [if_neg (by simp)]
      cases cleanup.dryRun with
      | true =>
          have shown := journaled_list host (r :: rest)
            (host.told (.info "Dry run, would delete:") s) acts
          obtain ⟨t, listed⟩ := shown
          refine ⟨[], t, ?_, fun _ => rfl, nofun⟩
          rw [if_pos rfl, host.journaled_tell_bind, List.append_nil]
          exact listed
      | false =>
          obtain ⟨deletions, t, deleted, all⟩ := journaled_deleteAll host ready (r :: rest) s acts
          exact ⟨deletions, t, deleted, nofun, fun _ => all⟩

/-- A cleanup lists, which only gets pages, and goes on with what it has. -/
theorem journaled_run (cleanup : Cleanup) (host : Host σ) (s : σ) {pattern : Regex}
    (named : patternOf cleanup.pattern = .ok pattern) :
    ∃ gets : List Act, (∀ act ∈ gets, act.Gets) ∧
      (cleanup.run host.journaled).run (s, []) =
        match (cleanup.hub.repositories host.toWeb).run s with
        | (.error cause, t) => (.error (.ofError cause), (t, gets))
        | (.ok all, t) =>
          (cleanup.finish host.journaled
            (staleRepositories pattern.isMatch (host.today t) all)).run (t, gets) := by
  obtain ⟨gets, allGet, listed⟩ :=
    cleanup.hub.journaled_repositoriesFrom host host.pageLimit 1 s []
  refine ⟨gets, allGet, ?_⟩
  have ran : (cleanup.hub.repositories host.journaled.toWeb).run (s, []) =
      (((cleanup.hub.repositories host.toWeb).run s).1,
        (((cleanup.hub.repositories host.toWeb).run s).2, gets)) := listed
  unfold run
  rw [Errand.run_ofExcept_bind, named]
  dsimp only
  rw [Errand.run_ofSession_bind]
  have same : Hub.ofSettings (some cleanup.token) cleanup.org = cleanup.hub := rfl
  rw [same, ran]
  obtain ⟨_ | _, _⟩ := (cleanup.hub.repositories host.toWeb).run s <;> rfl

def result (cleanup : Cleanup) (host : Host σ) (s : σ) : Except Failure Unit :=
  ((cleanup.run host.journaled).run (s, [])).1

def acts (cleanup : Cleanup) (host : Host σ) (s : σ) : List Act :=
  ((cleanup.run host.journaled).run (s, [])).2.2

/-- Without a pattern nothing is done. -/
theorem result_of_malformed (cleanup : Cleanup) (host : Host σ) (s : σ) {failure : Failure}
    (malformed : patternOf cleanup.pattern = .error failure) :
    cleanup.result host s = .error failure ∧ cleanup.acts host s = [] := by
  have ran : (cleanup.run host.journaled).run (s, []) = (.error failure, (s, [])) := by
    unfold run
    rw [Errand.run_ofExcept_bind, malformed]
  unfold result acts
  rw [ran]
  exact ⟨rfl, rfl⟩

/-- Where repositories were listed, any can be asked to be deleted. -/
theorem exists_deletes_of_listed {cleanup : Cleanup} {host : Host σ} {s t : σ}
    {all : List Repository} (listed : (cleanup.hub.repositories host.toWeb).run s = (.ok all, t))
    (r : Repository) : ∃ request, cleanup.hub.Deletes r request := by
  obtain ⟨pages, _, listing⟩ := Hub.listing_of_ok listed
  obtain ⟨query, request, made⟩ := listing.exists_request
  have below : ("/orgs/" ++ cleanup.hub.org ++ "/repos").toList =
      '/' :: ("orgs/" ++ cleanup.hub.org ++ "/repos").toList := by simp
  exact Hub.exists_deletes below made r

/-- A cleanup fails as its listing does, or is done with the deletions that there are to make. -/
theorem course (cleanup : Cleanup) (host : Host σ) (s : σ) {pattern : Regex}
    (named : patternOf cleanup.pattern = .ok pattern) :
    ∃ gets : List Act, (∀ act ∈ gets, act.Gets) ∧
      ((∃ cause, ((cleanup.hub.repositories host.toWeb).run s).1 = .error cause ∧
        cleanup.result host s = .error (.ofError cause) ∧ cleanup.acts host s = gets) ∨
      ∃ all t, (cleanup.hub.repositories host.toWeb).run s = (.ok all, t) ∧
        cleanup.result host s = .ok () ∧ ∃ deletions : List Act,
          cleanup.acts host s = gets ++ deletions ∧
          (cleanup.dryRun = true → deletions = []) ∧
          (cleanup.dryRun = false → List.Forall₂ (Deletion cleanup.hub)
            (staleRepositories pattern.isMatch (host.today t) all) deletions)) := by
  obtain ⟨gets, allGet, ran⟩ := cleanup.journaled_run host s named
  refine ⟨gets, allGet, ?_⟩
  unfold result acts
  rw [ran]
  cases listed : (cleanup.hub.repositories host.toWeb).run s with
  | mk outcome t =>
      cases outcome with
      | error cause => exact Or.inl ⟨cause, rfl, rfl, rfl⟩
      | ok all =>
          obtain ⟨deletions, u, finished, dry, wet⟩ := cleanup.journaled_finish host
            (exists_deletes_of_listed listed)
            (staleRepositories pattern.isMatch (host.today t) all) t gets
          dsimp only
          rw [finished]
          exact Or.inr ⟨all, t, rfl, rfl, deletions, rfl, dry, wet⟩

/-- A cleanup that deletes the stale repositories of what is listed and otherwise only gets pages. -/
structure DeletesStale (cleanup : Cleanup) (host : Host σ) (s : σ) (pattern : Regex)
    (result : Except Failure Unit) (acts : List Act) : Prop where
  /-- A dry run deletes nothing. -/
  dry : cleanup.dryRun = true → ∀ act ∈ acts, act.Gets
  /-- Neither does a run whose listing fails. -/
  fails : ∀ pages ≤ host.pageLimit, ∀ cause t,
    cleanup.hub.Listing host.toWeb 1 pages s (.error cause) t →
      result = .error (.ofError cause) ∧ ∀ act ∈ acts, act.Gets
  succeeds : ∀ pages ≤ host.pageLimit, ∀ all t,
    cleanup.hub.Listing host.toWeb 1 pages s (.ok all) t → result = .ok ()
  /-- Each stale repository is deleted once, in the order of the listing. -/
  deletes : ∀ pages ≤ host.pageLimit, ∀ all t,
    cleanup.hub.Listing host.toWeb 1 pages s (.ok all) t → cleanup.dryRun = false →
      ∃ gets deletions : List Act, acts = gets ++ deletions ∧ (∀ act ∈ gets, act.Gets) ∧
        List.Forall₂ (Deletion cleanup.hub)
          (staleRepositories pattern.isMatch (host.today t) all) deletions
  /-- A repository is stale if its name matches and it was made more than a day ago. -/
  stale : ∀ pages ≤ host.pageLimit, ∀ all t,
    cleanup.hub.Listing host.toWeb 1 pages s (.ok all) t → (host.today t).Known →
      staleRepositories pattern.isMatch (host.today t) all = all.filter fun r =>
        decide (r.createdAt.lastInstant < (host.today t).instant - Timestamp.nanosPerDay) &&
          pattern.isMatch r.name
  endless : (¬ ∃ pages ≤ host.pageLimit, ∃ outcome t,
      cleanup.hub.Listing host.toWeb 1 pages s outcome t) →
    result = .error (.ofError (.unsettled cleanup.hub.listing)) ∧ ∀ act ∈ acts, act.Gets

/-- Exactly the stale repositories are deleted by a cleanup with a pattern. -/
theorem deletes_exactly_stale (cleanup : Cleanup) (host : Host σ) (s : σ) {pattern : Regex}
    (named : patternOf cleanup.pattern = .ok pattern) :
    cleanup.DeletesStale host s pattern (cleanup.result host s) (cleanup.acts host s) := by
  obtain ⟨gets, allGet, course⟩ := cleanup.course host s named
  -- a listing that ends well decides which of the two courses is taken
  have listedWell : ∀ pages ≤ host.pageLimit, ∀ all t,
      cleanup.hub.Listing host.toWeb 1 pages s (.ok all) t → cleanup.result host s = .ok () ∧
        (cleanup.dryRun = false → ∃ deletions : List Act, cleanup.acts host s = gets ++ deletions ∧
          List.Forall₂ (Deletion cleanup.hub)
            (staleRepositories pattern.isMatch (host.today t) all) deletions) := by
    intro pages within all t listing
    have listed := listing.run_eq within
    rcases course with ⟨_, failed, _⟩ | ⟨_, _, went, result, deletions, acts, _, each⟩
    · cases failed.symm.trans (congrArg Prod.fst listed)
    · cases went.symm.trans listed
      exact ⟨result, fun wet => ⟨deletions, acts, each wet⟩⟩
  refine ⟨?_, ?_, fun pages within all t listing => (listedWell pages within all t listing).1, ?_,
    ?_, ?_⟩
  · intro dry
    rcases course with ⟨_, _, _, acts⟩ | ⟨_, _, _, _, deletions, acts, none, _⟩
    · exact acts ▸ allGet
    · rw [acts, none dry, List.append_nil]
      exact allGet
  · intro pages within cause t listing
    have listed := listing.run_eq within
    rcases course with ⟨other, failed, result, acts⟩ | ⟨_, _, went, _⟩
    · cases failed.symm.trans (congrArg Prod.fst listed)
      exact ⟨result, acts ▸ allGet⟩
    · cases went.symm.trans listed
  · intro pages within all t listing wet
    obtain ⟨deletions, acts, each⟩ := (listedWell pages within all t listing).2 wet
    exact ⟨gets, deletions, acts, allGet, each⟩
  · intro pages _ all t listing known
    exact List.filter_congr fun r member =>
      Repository.isStale_eq known (listing.known rfl r member) pattern.isMatch
  · intro endless
    rcases cleanup.hub.listing_or_unsettled host.toWeb host.pageLimit 1 s with ended | unsettled
    · exact absurd ended endless
    · rcases course with ⟨cause, failed, result, acts⟩ | ⟨_, _, went, _⟩
      · cases failed.symm.trans unsettled
        exact ⟨result, acts ▸ allGet⟩
      · cases (congrArg Prod.fst went).symm.trans unsettled

end Cleanup

namespace Rehearsal

/-- A page with two old repositories and one that is new, of which all names match, and one more
that is old; then a deletion is refused, and the next one is not. -/
def untidyReplies : List Reply :=
  [⟨200, Utf8.encode ("[\x7b\"name\":\"a1\",\"created_at\":\"2024-03-01T00:00:00Z\"\x7d," ++
      "\x7b\"name\":\"a2\",\"created_at\":\"2024-03-10T06:00:00Z\"\x7d," ++
      "\x7b\"name\":\"b\",\"created_at\":\"2024-03-01T00:00:00Z\"\x7d," ++
      "\x7b\"name\":\"a3\",\"created_at\":\"2023-12-31T00:00:00Z\"\x7d]"),
      false, none, none, false⟩,
    ⟨403, [], false, none, none, false⟩, ⟨204, [], false, none, none, false⟩]

def untidyHost : Host HostState := host {
  server := "", script := [], secureServers := ["api.github.com"]
  secureScript := some untidyReplies, programs := [], plays := [], absent := []
  environment := [], verbosity := .info, coloured := false, workingDirectory := "/"
  home := "/", repository := ".", kubeconfig := none, executable := ""
  today := ⟨⟨2024, 3, 10⟩, 720, 0, 0⟩ }

def untidyCleanup : Cleanup := ⟨"a", false, "org", "token"⟩

def staleNames (cleanup : Cleanup) (host : Host HostState) (s : HostState) :
    Option (List String) := do
  let pattern ← (Cleanup.patternOf cleanup.pattern).toOption
  let (listed, t) := (cleanup.hub.repositories host.toWeb).run s
  return (staleRepositories pattern.isMatch (host.today t) (← listed.toOption)).map (·.name)

theorem staleNames_eq_some {cleanup : Cleanup} {host : Host HostState} {s : HostState}
    {names : List String} (seen : staleNames cleanup host s = some names) :
    ∃ pattern all t, Cleanup.patternOf cleanup.pattern = .ok pattern ∧
      (cleanup.hub.repositories host.toWeb).run s = (.ok all, t) ∧
      (staleRepositories pattern.isMatch (host.today t) all).map (·.name) = names := by
  unfold staleNames at seen
  cases named : Cleanup.patternOf cleanup.pattern with
  | error =>
      rw [named] at seen
      cases seen
  | ok pattern =>
      cases ran : (cleanup.hub.repositories host.toWeb).run s with
      | mk listed t =>
          rw [named, ran] at seen
          cases listed with
          | error => cases seen
          | ok all => exact ⟨pattern, all, t, rfl, rfl, Option.some.inj seen⟩

/-- Only the old repositories with a name that matches are deleted, the second of them although the
first one stays. -/
theorem untidyCleanup_deletes :
    ∃ pattern all t, Cleanup.patternOf untidyCleanup.pattern = .ok pattern ∧
      (staleRepositories pattern.isMatch (untidyHost.today t) all).map (·.name) = ["a1", "a3"] ∧
      staleRepositories pattern.isMatch (untidyHost.today t) all = all.filter (fun r =>
        decide (r.createdAt.lastInstant < (untidyHost.today t).instant - Timestamp.nanosPerDay) &&
          pattern.isMatch r.name) ∧
      untidyCleanup.result untidyHost (.start []) = .ok () ∧ ∃ gets deletions : List Act,
        untidyCleanup.acts untidyHost (.start []) = gets ++ deletions ∧
        (∀ act ∈ gets, act.Gets) ∧
        List.Forall₂ (Cleanup.Deletion untidyCleanup.hub)
          (staleRepositories pattern.isMatch (untidyHost.today t) all) deletions := by
  have seen : staleNames untidyCleanup untidyHost (.start []) = some ["a1", "a3"] := by
    decide +kernel
  obtain ⟨pattern, all, t, named, listed, names⟩ := staleNames_eq_some seen
  obtain ⟨pages, within, listing⟩ := Hub.listing_of_ok listed
  have cleaned := Cleanup.deletes_exactly_stale untidyCleanup untidyHost (.start []) named
  have known : (untidyHost.today t).Known := by
    have now : untidyHost.today t = ⟨⟨2024, 3, 10⟩, 720, 0, 0⟩ := rfl
    rw [now]
    exact ⟨by decide, by decide, by decide, by decide⟩
  exact ⟨pattern, all, t, named, names, cleaned.stale pages within all t listing known,
    cleaned.succeeds pages within all t listing, cleaned.deletes pages within all t listing rfl⟩

end Rehearsal

end ClusterHarness
