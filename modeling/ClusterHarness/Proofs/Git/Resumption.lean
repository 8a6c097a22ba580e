import ClusterHarness.Proofs.Git.Checkouts
import ClusterHarness.Proofs.Text.Pieces
import ClusterHarness.Proofs.Text.Utf8
import ClusterHarness.Rehearsal.Cluster
import ClusterHarness.Rehearsal.Writer
import Mathlib.Data.Finset.Insert
import Mathlib.Data.Finset.Lattice.Basic

/-!
# Checkouts that go on where others failed

A fork that a checkout added as a remote stays one, even if the checkout fails after that.  As each
checkout goes by git's listing of the remotes, a later one adds the fork only if it is still
missing, and comes to its end unless git fails again.
-/

namespace ClusterHarness

variable {σ α β : Type}

open Errand

/-! ## Listings of remotes -/

namespace Text

theorem split_flatMap_ended {texts : List (List Char)} (whole : ∀ text ∈ texts, '\n' ∉ text) :
    split '\n' (texts.flatMap (· ++ ['\n'])) = texts ++ [[]] := by
  induction texts with
  | nil => rfl
  | cons text texts ih =>
      obtain ⟨first, others⟩ := List.forall_mem_cons.mp whole
      rw [List.flatMap_cons, List.append_assoc, List.singleton_append, split_append first,
        ih others, List.cons_append]

theorem dropCarriageReturn_eq_self {text : List Char} (none : '\r' ∉ text) :
    dropCarriageReturn text = text :=
  if_neg fun last => none (List.mem_of_getLast? last)

/-- Texts that are ended by line feeds are the lines, if no line feed or carriage return is in them.
-/
theorem lines_flatMap_ended {texts : List (List Char)}
    (plain : ∀ text ∈ texts, '\n' ∉ text ∧ '\r' ∉ text) :
    lines (texts.flatMap (· ++ ['\n'])) = texts := by
  have kept : texts.map dropCarriageReturn = texts :=
    (List.map_congr_left fun text member => dropCarriageReturn_eq_self (plain text member).2).trans
      (List.map_id texts)
  unfold lines
  rw [split_flatMap_ended fun text member => (plain text member).1]
  simp only [List.dropLast_concat, List.getLast?_concat]
  exact kept

end Text

namespace Git

/-- A remote's name is printed in one line. -/
def PlainName (name : String) : Prop := '\n' ∉ name.toList ∧ '\r' ∉ name.toList

/-- A listing names each of the remotes in a line, in some order. -/
def Lists (remotes : Finset String) (listing : String) : Prop :=
  ∃ names : List String, names.toFinset = remotes ∧
    listing.toList = names.flatMap fun name => name.toList ++ ['\n']

theorem Lists.mem_remotes_iff {remotes : Finset String} {listing : String}
    (lists : Lists remotes listing) (plain : ∀ name ∈ remotes, PlainName name) (owner : String) :
    owner ∈ Git.remotes listing ↔ owner ∈ remotes := by
  obtain ⟨names, rfl, printed⟩ := lists
  have lines : Text.lines listing.toList = names.map String.toList := by
    rw [printed, ← List.flatMap_map String.toList (· ++ ['\n'])]
    refine Text.lines_flatMap_ended fun text member => ?_
    obtain ⟨name, named, rfl⟩ := List.mem_map.mp member
    exact plain name (List.mem_toFinset.mpr named)
  have same : Git.remotes listing = names := by
    rw [Git.remotes, lines, List.map_map]
    exact (List.map_congr_left fun name _ => String.ofList_toList).trans (List.map_id names)
  rw [same, List.mem_toFinset]

end Git

/-! ## Steps -/

structure Step (σ : Type) where
  before : σ
  launch : Launch

namespace Step

def act (step : Step σ) : Act := .launched step.launch

def command (step : Step σ) : Command := step.launch.command

theorem map_act_eq_cons {steps : List (Step σ)} {launch : Launch} {acts : List Act}
    (same : steps.map act = .launched launch :: acts) :
    ∃ before rest, steps = ⟨before, launch⟩ :: rest ∧ rest.map act = acts := by
  obtain ⟨⟨before, _⟩, rest, rfl, noted, others⟩ := List.map_eq_cons_iff.mp same
  cases noted
  exact ⟨before, rest, rfl, others⟩

end Step

theorem Running.commands {steps : List (Step σ)} {commands : List Command}
    {result : Except Failure Unit} (running : Running commands result (steps.map Step.act)) :
    steps.map Step.command <+: commands ∧
      ((∀ step ∈ steps, step.launch.output.isOk = true) →
        result = .ok () ∧ steps.map Step.command = commands) := by
  generalize same : steps.map Step.act = acts at running
  induction running generalizing steps with
  | done =>
      cases List.map_eq_nil_iff.mp same
      exact ⟨List.prefix_rfl, fun _ => ⟨rfl, rfl⟩⟩
  | fails launched failed =>
      obtain ⟨_, _, rfl, others⟩ := Step.map_act_eq_cons same
      cases List.map_eq_nil_iff.mp others
      refine ⟨List.cons_prefix_cons.mpr ⟨launched, List.nil_prefix⟩, fun succeed => ?_⟩
      have ok := succeed _ List.mem_cons_self
      rw [failed] at ok
      cases ok
  | goesOn launched succeeded _ ih =>
      obtain ⟨_, rest, rfl, others⟩ := Step.map_act_eq_cons same
      obtain ⟨begins, ends⟩ := ih others
      refine ⟨List.cons_prefix_cons.mpr ⟨launched, begins⟩, fun succeed => ?_⟩
      obtain ⟨went, all⟩ := ends (List.forall_mem_cons.mp succeed).2
      exact ⟨went, List.cons_eq_cons.mpr ⟨launched, all⟩⟩

namespace Host

/-- These commands are launched on the way from one state to another, each in the state there is
then; besides, things may be said. -/
inductive Takes (host : Host σ) : σ → List (Step σ) → σ → Prop where
  | done {s : σ} : host.Takes s [] s
  | tells {s t : σ} {steps : List (Step σ)} (notice : Notice)
      (others : host.Takes (host.say notice s) steps t) : host.Takes s steps t
  | launches {s t : σ} {steps : List (Step σ)} (command : Command)
      (others : host.Takes (host.launch command s).2 steps t) :
      host.Takes s (⟨s, command, (host.launch command s).1⟩ :: steps) t

variable {host : Host σ}

theorem Takes.append {s t u : σ} {first second : List (Step σ)} (takes : host.Takes s first t)
    (others : host.Takes t second u) : host.Takes s (first ++ second) u := by
  induction takes with
  | done => exact others
  | tells notice _ ih => exact .tells notice (ih others)
  | launches command _ ih => exact .launches command (ih others)

/-- All that an errand does is to launch commands, and with a journal it does the same. -/
def Stepwise (host : Host σ) (errand : Errand σ α) (journaled : Errand (σ × List Act) α) : Prop :=
  ∀ s, ∃ result t steps, errand.run s = (result, t) ∧ host.Takes s steps t ∧
    ∀ before, journaled.run (s, before) = (result, (t, before ++ steps.map Step.act))

theorem Stepwise.bind {errand : Errand σ α} {journaled : Errand (σ × List Act) α}
    {next : α → Errand σ β} {nextJournaled : α → Errand (σ × List Act) β}
    (head : host.Stepwise errand journaled)
    (tail : ∀ value, host.Stepwise (next value) (nextJournaled value)) :
    host.Stepwise (errand >>= next) (journaled >>= nextJournaled) := by
  intro s
  obtain ⟨result, t, steps, ran, takes, noted⟩ := head s
  cases result with
  | error failure =>
      refine ⟨.error failure, t, steps, ?_, takes, fun before => ?_⟩
      · rw [exceptT_run_bind, ran]
      · rw [exceptT_run_bind, noted]
  | ok value =>
      obtain ⟨result, u, more, ranOn, takesOn, notedOn⟩ := tail value t
      refine ⟨result, u, steps ++ more, ?_, takes.append takesOn, fun before => ?_⟩
      · rw [exceptT_run_bind, ran, ← ranOn]
      · rw [exceptT_run_bind, noted, List.map_append, ← List.append_assoc, ← notedOn]

theorem takes_launch (host : Host σ) (command : Command) (s : σ) :
    host.Takes s [⟨host.announced command s, command,
        (host.launch command (host.announced command s)).1⟩]
      (host.launch command (host.announced command s)).2 := by
  have launched : host.Takes (host.announced command s) _ _ := .launches command .done
  generalize (host.launch command (host.announced command s)).2 = t at launched ⊢
  generalize [Step.mk (host.announced command s) _] = steps at launched ⊢
  unfold announced told at launched
  split at launched
  · exact .tells _ launched
  · exact launched

theorem stepwise_git (host : Host σ) (arguments : List String) :
    host.Stepwise (host.git arguments) (host.journaled.git arguments) := by
  intro s
  refine ⟨_, _, _, host.run_outputOf rfl s, host.takes_launch (host.gitCommand arguments) s,
    fun before => ?_⟩
  have ran : (host.journaled.git arguments).run (s, before) = _ :=
    host.journaled.run_outputOf rfl (s, before)
  rw [journaled_announced] at ran
  exact ran

theorem Stepwise.discard {errand : Errand σ α} {journaled : Errand (σ × List Act) α}
    (stepwise : host.Stepwise errand journaled) :
    host.Stepwise (Functor.discard errand) (Functor.discard journaled) := by
  intro s
  obtain ⟨result, t, steps, ran, takes, noted⟩ := stepwise s
  refine ⟨result.map (Function.const α ()), t, steps, ?_, takes, fun before => ?_⟩
  · show (Function.const α () <$> errand).run s = _
    rw [exceptT_run_map, ran]
  · show (Function.const α () <$> journaled).run (s, before) = _
    rw [exceptT_run_map, noted]

theorem stepwise_checkoutFork (host : Host σ) (owner repo revision : String) :
    host.Stepwise (host.checkoutFork owner repo revision)
      (host.journaled.checkoutFork owner repo revision) := by
  unfold checkoutFork
  refine (host.stepwise_git _).bind fun listing => ?_
  have fetches := ((host.stepwise_git ["fetch", owner]).discard.bind fun _ =>
    (host.stepwise_git ["checkout", Git.checkoutTarget owner revision]).discard)
  split
  · exact (host.stepwise_git _).discard.bind fun _ => fetches
  · exact fetches

end Host

/-! ## Series of checkouts -/

theorem Host.gitCommand_inj {host : Host σ} {first second : List String} :
    host.gitCommand first = host.gitCommand second ↔ first = second :=
  ⟨congrArg Command.arguments, congrArg host.gitCommand⟩

/-- A revision of an owner's fork of a repository, to be checked out. -/
structure Fork where
  owner : String
  repo : String
  revision : String

namespace Fork

def checkout (fork : Fork) (host : Host σ) : Errand σ Unit :=
  host.checkoutFork fork.owner fork.repo fork.revision

def result (fork : Fork) (host : Host σ) (s : σ) : Except Failure Unit :=
  ((fork.checkout host).run s).1

def after (fork : Fork) (host : Host σ) (s : σ) : σ := ((fork.checkout host).run s).2

def acts (fork : Fork) (host : Host σ) (s : σ) : List Act :=
  ((fork.checkout host.journaled).run (s, [])).2.2

/-- The state after checkouts one after the other, whichever of them failed. -/
def afterAll (host : Host σ) (forks : List Fork) (s : σ) : σ :=
  forks.foldl (fun s fork => fork.after host s) s

def target (fork : Fork) : String := Git.checkoutTarget fork.owner fork.revision

def url (fork : Fork) : String :=
  "https://github.com/" ++ fork.owner ++ "/" ++ fork.repo ++ ".git"

/-- The commands of a checkout that does not fail, given the remotes that there are. -/
def commands (fork : Fork) (host : Host σ) (remotes : Finset String) : List Command :=
  host.gitCommand ["remote"] ::
    (if fork.owner ∈ remotes then []
      else [host.gitCommand ["remote", "add", fork.owner, fork.url]])
    ++ [host.gitCommand ["fetch", fork.owner], host.gitCommand ["checkout", fork.target]]

theorem mem_commands {fork : Fork} {host : Host σ} {remotes : Finset String} {command : Command}
    (member : command ∈ fork.commands host remotes) :
    command = host.gitCommand ["remote"] ∨
      fork.owner ∉ remotes ∧ command =
        host.gitCommand ["remote", "add", fork.owner, fork.url] ∨
      command = host.gitCommand ["fetch", fork.owner] ∨
      command = host.gitCommand ["checkout", fork.target] := by
  unfold commands at member
  split at member
  · next present => simpa [present] using member
  · next absent => simpa [absent] using member

/-- No remote is added but the owner's, and only if there is none. -/
theorem addition_of_mem_commands {fork : Fork} {host : Host σ} {remotes : Finset String}
    {name url : String}
    (member : host.gitCommand ["remote", "add", name, url] ∈ fork.commands host remotes) :
    name = fork.owner ∧ fork.owner ∉ remotes := by
  rcases mem_commands member with same | ⟨absent, same⟩ | same | same
  all_goals have arguments := Host.gitCommand_inj.mp same
  case inr.inl =>
    simp only [List.cons.injEq, true_and] at arguments
    exact ⟨arguments.1, absent⟩
  all_goals simp at arguments

structure Steps (fork : Fork) (host : Host σ) (s : σ) (steps : List (Step σ)) : Prop where
  acts : fork.acts host s = steps.map Step.act
  takes : host.Takes s steps (fork.after host s)
  inTurn : host.CheckingOut fork.owner fork.repo fork.target (fork.result host s)
    (steps.map Step.act)

theorem exists_steps (fork : Fork) (host : Host σ) (s : σ) : ∃ steps, fork.Steps host s steps := by
  obtain ⟨result, t, steps, ran, takes, noted⟩ :=
    host.stepwise_checkoutFork fork.owner fork.repo fork.revision s
  obtain ⟨result', t', acts, ran', inTurn⟩ :=
    host.comesTo_checkoutFork fork.owner fork.repo fork.revision s []
  cases (noted []).symm.trans ran'
  refine ⟨steps, congrArg (·.2.2) (noted []), ?_, ?_⟩
  · have same : fork.after host s = t := congrArg (·.2) ran
    rw [same]
    exact takes
  · have same : fork.result host s = result := congrArg (·.1) ran
    rw [same]
    exact inTurn

end Fork

/-! ## Git's remotes -/

/-- What git does with the remotes of the repository: it lists them, whatever is fetched or checked
out leaves them as they are, and an attempt to add one adds that one or none. -/
structure Host.KeepsRemotes (host : Host σ) (remotes : σ → Finset String) : Prop where
  /-- No name that git accepts has a control character. -/
  plain (s : σ) : ∀ name ∈ remotes s, Git.PlainName name
  tells (notice : Notice) (s : σ) : remotes (host.say notice s) = remotes s
  /-- This says nothing about a listing that fails, or that is no text. -/
  lists (s : σ) (listing : String) :
    (Launch.mk (host.gitCommand ["remote"]) (host.launch (host.gitCommand ["remote"]) s).1).output =
      .ok listing → Git.Lists (remotes s) listing
  afterListing (s : σ) : remotes (host.launch (host.gitCommand ["remote"]) s).2 = remotes s
  afterFetch (name : String) (s : σ) :
    remotes (host.launch (host.gitCommand ["fetch", name]) s).2 = remotes s
  afterCheckout (target : String) (s : σ) :
    remotes (host.launch (host.gitCommand ["checkout", target]) s).2 = remotes s
  /-- The remote may be there even if the command failed. -/
  afterAddition (name url : String) (s : σ) :
    remotes (host.launch (host.gitCommand ["remote", "add", name, url]) s).2 = remotes s ∨
      remotes (host.launch (host.gitCommand ["remote", "add", name, url]) s).2 =
        insert name (remotes s)

/-- The step is to add a remote that there is already, which git rejects. -/
def Step.Rejected (host : Host σ) (remotes : σ → Finset String) (step : Step σ) : Prop :=
  ∃ name url, step.command = host.gitCommand ["remote", "add", name, url] ∧
    name ∈ remotes step.before

/-- A checkout that starts with the remotes that earlier ones left, whichever of those failed. -/
structure Host.Resumes (host : Host σ) (remotes : σ → Finset String) (s : σ) (earlier : List Fork)
    (fork : Fork) (start : σ) (steps : List (Step σ)) : Prop where
  /-- What one of the earlier checkouts added is still there. -/
  stays : ∀ first second, earlier = first ++ second →
    remotes (Fork.afterAll host first s) ⊆ remotes start
  owned : ∀ name ∈ remotes start, name ∈ remotes s ∨ ∃ other ∈ earlier, other.owner = name
  denotes : Git.Denotes fork.owner fork.revision fork.target
  course : fork.Steps host start steps
  begins : steps.map Step.command <+: fork.commands host (remotes start)
  addsNone : fork.owner ∈ remotes start → ∀ step ∈ steps, ∀ name url,
    step.command ≠ host.gitCommand ["remote", "add", name, url]
  unrejected : ∀ step ∈ steps, ¬step.Rejected host remotes
  /-- A checkout comes to its end if no command fails for another reason. -/
  ends : (∀ step ∈ steps, step.launch.output.isOk = false → step.Rejected host remotes) →
    fork.result host start = .ok () ∧
      steps.map Step.command = fork.commands host (remotes start)

namespace Host.KeepsRemotes

variable {host : Host σ} {remotes : σ → Finset String} (git : host.KeepsRemotes remotes)

include git

/-- A step is taken with the remotes that there were before. -/
theorem takes_cons {s t : σ} {step : Step σ} {steps : List (Step σ)}
    (takes : host.Takes s (step :: steps) t) :
    remotes step.before = remotes s ∧
      step.launch = ⟨step.command, (host.launch step.command step.before).1⟩ ∧
      host.Takes (host.launch step.command step.before).2 steps t := by
  generalize same : step :: steps = all at takes
  induction takes with
  | done => cases same
  | tells notice _ ih =>
      obtain ⟨kept, rest⟩ := ih same
      exact ⟨kept.trans (git.tells notice _), rest⟩
  | launches command others =>
      cases same
      exact ⟨rfl, rfl, others⟩

theorem takes_nil {s t : σ} (takes : host.Takes s [] t) : remotes t = remotes s := by
  generalize same : ([] : List (Step σ)) = none at takes
  induction takes with
  | done => rfl
  | tells notice _ ih => exact (ih same).trans (git.tells notice _)
  | launches => cases same

variable {fork : Fork} {s : σ} {steps : List (Step σ)}

/-- The remotes that there are when a checkout starts decide what is done. -/
theorem commands_prefix (course : fork.Steps host s steps) :
    steps.map Step.command <+: fork.commands host (remotes s) ∧
      ((∀ step ∈ steps, step.launch.output.isOk = true) → fork.result host s = .ok () ∧
        steps.map Step.command = fork.commands host (remotes s)) := by
  obtain ⟨_, takes, inTurn⟩ := course
  generalize fork.result host s = result at inTurn ⊢
  generalize same : steps.map Step.act = acts at inTurn
  cases inTurn with
  | unlisted launched failed =>
      obtain ⟨_, _, rfl, none⟩ := Step.map_act_eq_cons same
      cases List.map_eq_nil_iff.mp none
      refine ⟨List.cons_prefix_cons.mpr ⟨launched, List.nil_prefix⟩, fun succeed => ?_⟩
      have ok := succeed _ List.mem_cons_self
      rw [failed] at ok
      cases ok
  | @listed _ listing _ _ launched succeeded running =>
      obtain ⟨before, rest, rfl, rfl⟩ := Step.map_act_eq_cons same
      obtain ⟨kept, launch, _⟩ := git.takes_cons takes
      dsimp only [Step.command] at launch kept
      rw [launch, launched] at succeeded
      have listed := git.lists _ _ succeeded
      rw [kept] at listed
      have present := listed.mem_remotes_iff (git.plain s) fork.owner
      have goesOn : fork.commands host (remotes s) = host.gitCommand ["remote"] ::
          host.checkoutCommands listing fork.owner fork.repo fork.target := by
        unfold Fork.commands checkoutCommands Fork.url
        rw [if_congr present rfl rfl, List.cons_append]
      obtain ⟨begins, ends⟩ := running.commands
      rw [goesOn]
      refine ⟨List.cons_prefix_cons.mpr ⟨launched, begins⟩, fun succeed => ?_⟩
      obtain ⟨went, all⟩ := ends (List.forall_mem_cons.mp succeed).2
      exact ⟨went, List.cons_eq_cons.mpr ⟨launched, all⟩⟩

/-- No remote is added that there is already. -/
theorem not_rejected (course : fork.Steps host s steps) :
    ∀ step ∈ steps, ¬step.Rejected host remotes := by
  rintro step taken ⟨name, url, asked, there⟩
  have begins := (git.commands_prefix course).1
  have takes := course.takes
  have named := begins.subset (List.mem_map_of_mem taken)
  rw [asked] at named
  obtain ⟨rfl, absent⟩ := Fork.addition_of_mem_commands named
  -- Only the second command adds a remote, and the listing before it adds none.
  unfold Fork.commands at begins
  rw [if_neg absent] at begins
  obtain _ | ⟨first, rest⟩ := steps
  · cases taken
  obtain ⟨lists, begins⟩ := List.cons_prefix_cons.mp begins
  obtain ⟨kept, _, takes⟩ := git.takes_cons takes
  rcases List.mem_cons.mp taken with rfl | taken
  · simpa using gitCommand_inj.mp (asked.symm.trans lists)
  obtain _ | ⟨second, rest⟩ := rest
  · cases taken
  obtain ⟨_, begins⟩ := List.cons_prefix_cons.mp begins
  rcases List.mem_cons.mp taken with rfl | taken
  · rw [lists] at takes
    rw [(git.takes_cons takes).1, git.afterListing, kept] at there
    exact absent there
  · have later := begins.subset (List.mem_map_of_mem taken)
    simp [asked, gitCommand_inj] at later

theorem afterCommand {start t : σ} {command : Command}
    (known : command ∈ fork.commands host (remotes start)) :
    remotes t ⊆ remotes (host.launch command t).2 ∧
      remotes (host.launch command t).2 ⊆ insert fork.owner (remotes t) := by
  have same {u : σ} (kept : remotes u = remotes t) :
      remotes t ⊆ remotes u ∧ remotes u ⊆ insert fork.owner (remotes t) :=
    ⟨kept.superset, kept.subset.trans (Finset.subset_insert _ _)⟩
  rcases Fork.mem_commands known with rfl | ⟨_, rfl⟩ | rfl | rfl
  · exact same (git.afterListing t)
  · rcases git.afterAddition fork.owner fork.url t with kept | added
    · exact same kept
    · exact ⟨added ▸ Finset.subset_insert _ _, added.subset⟩
  · exact same (git.afterFetch _ t)
  · exact same (git.afterCheckout _ t)

/-- The induction is on the steps. -/
theorem grows_along {t : σ} (takes : host.Takes s steps t) {start : σ}
    (known : ∀ step ∈ steps, step.command ∈ fork.commands host (remotes start)) :
    remotes s ⊆ remotes t ∧ remotes t ⊆ insert fork.owner (remotes s) := by
  induction steps generalizing s with
  | nil =>
      rw [git.takes_nil takes]
      exact ⟨subset_rfl, Finset.subset_insert _ _⟩
  | cons step steps ih =>
      obtain ⟨first, others⟩ := List.forall_mem_cons.mp known
      obtain ⟨kept, _, rest⟩ := git.takes_cons takes
      obtain ⟨more, bound⟩ := git.afterCommand (t := step.before) first
      obtain ⟨more', bound'⟩ := ih rest others
      rw [kept] at more bound
      refine ⟨more.trans more', bound'.trans ?_⟩
      exact Finset.insert_subset (Finset.mem_insert_self _ _) bound

/-- The remotes stay, and at most the owner's is added, even if the checkout fails. -/
theorem grows (fork : Fork) (s : σ) :
    remotes s ⊆ remotes (fork.after host s) ∧
      remotes (fork.after host s) ⊆ insert fork.owner (remotes s) := by
  obtain ⟨steps, course⟩ := fork.exists_steps host s
  exact git.grows_along course.takes fun _ taken =>
    (git.commands_prefix course).1.subset (List.mem_map_of_mem taken)

/-- The induction is on the checkouts. -/
theorem grows_over (forks : List Fork) (s : σ) :
    remotes s ⊆ remotes (Fork.afterAll host forks s) ∧
      ∀ name ∈ remotes (Fork.afterAll host forks s),
        name ∈ remotes s ∨ ∃ fork ∈ forks, fork.owner = name := by
  induction forks generalizing s with
  | nil => exact ⟨subset_rfl, fun _ => .inl⟩
  | cons fork forks ih =>
      obtain ⟨more, bound⟩ := git.grows fork s
      obtain ⟨more', bound'⟩ := ih (fork.after host s)
      refine ⟨more.trans more', fun name there => ?_⟩
      rcases bound' name there with there | ⟨other, member, rfl⟩
      · rcases Finset.mem_insert.mp (bound there) with rfl | there
        · exact .inr ⟨fork, List.mem_cons_self, rfl⟩
        · exact .inl there
      · exact .inr ⟨other, List.mem_cons_of_mem _ member, rfl⟩

theorem stays (first second : List Fork) (s : σ) :
    remotes (Fork.afterAll host first s) ⊆ remotes (Fork.afterAll host (first ++ second) s) := by
  unfold Fork.afterAll
  rw [List.foldl_append]
  exact (git.grows_over second _).1

/-- After any checkouts, whichever of them failed, the next one lists the remotes, adds the fork
only if it is none of them, fetches it only then, and checks out what the revision denotes once it
is fetched. -/
theorem checkouts_resume (earlier : List Fork) (fork : Fork) (s : σ) :
    ∃ steps, host.Resumes remotes s earlier fork (Fork.afterAll host earlier s) steps := by
  have owned := (git.grows_over earlier s).2
  have stays : ∀ first second, earlier = first ++ second →
      remotes (Fork.afterAll host first s) ⊆ remotes (Fork.afterAll host earlier s) := by
    rintro first second rfl
    exact git.stays first second s
  generalize Fork.afterAll host earlier s = start at owned stays
  obtain ⟨steps, course⟩ := fork.exists_steps host start
  obtain ⟨begins, ends⟩ := git.commands_prefix course
  have unrejected := git.not_rejected course
  refine ⟨steps, stays, owned, Git.denotes_checkoutTarget _ _, course, begins, ?_, unrejected, ?_⟩
  · intro present step taken name url asked
    have named := begins.subset (List.mem_map_of_mem taken)
    rw [asked] at named
    exact (Fork.addition_of_mem_commands named).2 present
  · intro otherwise
    refine ends fun step taken => ?_
    by_contra fails
    exact unrejected step taken (otherwise step taken (Bool.eq_false_iff.mpr fails))

end Host.KeepsRemotes

namespace Rehearsal

/-- A repository with some remotes; some of the next commands fail. -/
structure GitState where
  remotes : List String
  plain : ∀ name ∈ remotes, Git.PlainName name
  failing : List Bool

instance (name : String) : Decidable (Git.PlainName name) :=
  inferInstanceAs (Decidable (_ ∧ _))

def ended (code : Nat) (out err : String) : Except String Completion :=
  .ok ⟨.exited code, Utf8.encode out, Utf8.encode err⟩

def listingOf (names : List String) : String :=
  String.ofList (names.flatMap fun name => name.toList ++ ['\n'])

def addRemote (name : String) (s : GitState) : Except String Completion × GitState :=
  if name ∈ s.remotes then (ended 3 "" ("error: remote " ++ name ++ " already exists.\n"), s)
  else if plain : Git.PlainName name then
    (ended 0 "" "", { s with
      remotes := name :: s.remotes
      plain := List.forall_mem_cons.mpr ⟨plain, s.plain⟩ })
  else (ended 128 "" ("fatal: not a valid remote name: " ++ name ++ "\n"), s)

def gitOf (arguments : List String) (s : GitState) : Except String Completion × GitState :=
  match arguments with
  | ["remote"] => (ended 0 (listingOf s.remotes) "", s)
  | ["remote", "add", name, _] => addRemote name s
  | _ => (ended 0 "" "", s)

/-- A host with nothing but a repository. -/
def gitHost : Host GitState where
  toClocked := clocked (fun _ => 0) fun _ s => s
  send _ s := (.broken "connection closed", s)
  today _ := ⟨⟨2024, 3, 10⟩, 720, 0, 0⟩
  random s := (numbers 0, s)
  fetch _ s := (.closed, s)
  pageLimit := patience
  launch command s :=
    let rest := { s with failing := s.failing.tail }
    if s.failing.head? = some true then (ended 128 "" "fatal: unable to access the remote\n", rest)
    else gitOf command.arguments rest
  environment := []
  verbosity := .info
  say _ s := s
  temporaryDirectory s := (.ok "", s)
  makeDirectories _ s := (.ok (), s)
  writeFile _ _ s := (.ok (), s)
  kubeconfig _ := none
  executable := .ok ""
  repository := "."
  yamlText := yamlText

def remotesOf (s : GitState) : Finset String := s.remotes.toFinset

theorem output_ended (command : Command) (text : String) :
    (Launch.mk command (ended 0 text "")).output = .ok text := by
  have good : (Ending.exited 0).success = true := by decide
  unfold Launch.output ended
  dsimp only
  rw [if_pos good, Utf8.decode_encode]
  rfl

/-- A command fails and nothing is changed, or git does what it is told. -/
theorem launch_gitHost (arguments : List String) (s : GitState) :
    ∃ rest : GitState, rest.remotes = s.remotes ∧
      (gitHost.launch (gitHost.gitCommand arguments) s =
          (ended 128 "" "fatal: unable to access the remote\n", rest) ∨
        gitHost.launch (gitHost.gitCommand arguments) s = gitOf arguments rest) := by
  refine ⟨{ s with failing := s.failing.tail }, rfl, ?_⟩
  by_cases fails : s.failing.head? = some true
  · exact .inl (if_pos fails)
  · exact .inr (if_neg fails)

theorem remotesOf_launch {arguments : List String} (changes : Finset String → Finset String → Prop)
    (kept : ∀ remotes, changes remotes remotes)
    (done : ∀ s, changes (remotesOf s) (remotesOf (gitOf arguments s).2)) (s : GitState) :
    changes (remotesOf s) (remotesOf (gitHost.launch (gitHost.gitCommand arguments) s).2) := by
  obtain ⟨rest, same, failed | went⟩ := launch_gitHost arguments s
  · have unchanged : remotesOf rest = remotesOf s := congrArg List.toFinset same
    rw [failed, ← unchanged]
    exact kept _
  · have unchanged : remotesOf rest = remotesOf s := congrArg List.toFinset same
    rw [went, ← unchanged]
    exact done rest

theorem gitHost_keepsRemotes : gitHost.KeepsRemotes remotesOf where
  plain s name there := s.plain name (List.mem_toFinset.mp there)
  tells _ _ := rfl
  lists s listing := by
    intro heard
    obtain ⟨rest, same, failed | went⟩ := launch_gitHost ["remote"] s
    · rw [failed] at heard
      cases heard
    · have printed : gitOf ["remote"] rest = (ended 0 (listingOf rest.remotes) "", rest) := rfl
      rw [went, printed, output_ended] at heard
      cases heard
      rw [same]
      exact ⟨s.remotes, rfl, String.toList_ofList⟩
  afterListing s := remotesOf_launch (fun before after => after = before)
    (fun _ => rfl) (fun _ => rfl) s
  afterFetch name s := remotesOf_launch (fun before after => after = before)
    (fun _ => rfl) (fun _ => rfl) s
  afterCheckout target s := remotesOf_launch (fun before after => after = before)
    (fun _ => rfl) (fun _ => rfl) s
  afterAddition name url s := by
    refine remotesOf_launch (fun before after => after = before ∨ after = insert name before)
      (fun _ => .inl rfl) (fun t => ?_) s
    have added : gitOf ["remote", "add", name, url] t = addRemote name t := rfl
    rw [added]
    unfold addRemote
    split
    · exact .inl rfl
    · split
      · exact .inr List.toFinset_cons
      · exact .inl rfl

def octocat : Fork := ⟨"octocat", "e2e-tests", "feature"⟩

def interrupted : GitState := ⟨["origin"], by decide, [false, false, true]⟩

def resumed : GitState := Fork.afterAll gitHost [octocat] interrupted

def succeeds : Act → Bool
  | .launched launch => launch.output.isOk
  | _ => false

/-- The remote that was added before the failure is not added again. -/
theorem octocat_resumed :
    (octocat.result gitHost interrupted).isOk = false ∧ gitHost.KeepsRemotes remotesOf ∧
      octocat.result gitHost resumed = .ok () ∧ ∃ steps, octocat.Steps gitHost resumed steps ∧
        (∀ step ∈ steps, step.launch.output.isOk = false → step.Rejected gitHost remotesOf) ∧
        steps.map Step.command = [gitHost.gitCommand ["remote"],
          gitHost.gitCommand ["fetch", "octocat"],
          gitHost.gitCommand ["checkout", "octocat/feature"]] := by
  obtain ⟨steps, resumes⟩ := gitHost_keepsRemotes.checkouts_resume [octocat] octocat interrupted
  have all : (octocat.acts gitHost resumed).all succeeds = true := by decide +kernel
  have acts : octocat.acts gitHost resumed = steps.map Step.act := resumes.course.acts
  rw [acts, List.all_map, List.all_eq_true] at all
  have otherwise : ∀ step ∈ steps,
      step.launch.output.isOk = false → step.Rejected gitHost remotesOf := fun step taken fails =>
    absurd (all step taken) (Bool.eq_false_iff.mp fails)
  obtain ⟨result, commands⟩ := resumes.ends otherwise
  have expected : octocat.commands gitHost (remotesOf resumed) = [gitHost.gitCommand ["remote"],
      gitHost.gitCommand ["fetch", "octocat"],
      gitHost.gitCommand ["checkout", "octocat/feature"]] := by decide +kernel
  exact ⟨by decide +kernel, gitHost_keepsRemotes, result, steps, resumes.course, otherwise,
    commands.trans expected⟩

end Rehearsal

end ClusterHarness
