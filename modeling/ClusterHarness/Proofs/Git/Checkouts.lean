import ClusterHarness.Git.Checkout
import ClusterHarness.Proofs.Host.Deeds

/-!
# How forks are checked out

Git is asked for its remotes, and what it lists decides whether the fork is added before it is
fetched and a revision of it checked out.  Each command waits for the one before it to succeed.
-/

namespace ClusterHarness

variable {σ : Type}

open Errand

/-! ## Commands in turn -/

/-- Commands are run one after the other, up to one that fails; its failure is the result. -/
inductive Running : List Command → Except Failure Unit → List Act → Prop where
  | done : Running [] (.ok ()) []
  | fails {command : Command} {rest : List Command} {launch : Launch} {failure : Failure}
      (launched : launch.command = command) (failed : launch.output = .error failure) :
      Running (command :: rest) (.error failure) [.launched launch]
  | goesOn {command : Command} {rest : List Command} {launch : Launch} {output : String}
      {result : Except Failure Unit} {acts : List Act} (launched : launch.command = command)
      (succeeded : launch.output = .ok output) (others : Running rest result acts) :
      Running (command :: rest) result (.launched launch :: acts)

namespace Running

variable {first second : List Command} {acts : List Act}

theorem append_of_error {failure : Failure} (running : Running first (.error failure) acts) :
    Running (first ++ second) (.error failure) acts := by
  generalize same : (.error failure : Except Failure Unit) = result at running
  induction running with
  | done => cases same
  | fails launched failed => exact .fails launched failed
  | goesOn launched succeeded _ ih => exact .goesOn launched succeeded (ih same)

theorem append_of_ok {result : Except Failure Unit} {more : List Act}
    (running : Running first (.ok ()) acts) (others : Running second result more) :
    Running (first ++ second) result (acts ++ more) := by
  generalize same : (.ok () : Except Failure Unit) = done at running
  induction running with
  | done => exact others
  | fails => cases same
  | goesOn launched succeeded _ ih => exact .goesOn launched succeeded (ih same)

/-- The commands of two errands in turn. -/
theorem bind {head : Errand (σ × List Act) Unit} {next : Unit → Errand (σ × List Act) Unit}
    (ran : head.ComesTo (Running first)) (tail : (next ()).ComesTo (Running second)) :
    (head >>= next).ComesTo (Running (first ++ second)) :=
  ComesTo.bind ran (fun _ _ running => running.append_of_error) fun _ _ running =>
    tail.mono fun _ _ others => running.append_of_ok others

end Running

namespace Git

/-! ## Revisions -/

def IsHash (revision : String) : Prop :=
  revision.toList.length = 40 ∧ ∀ c ∈ revision.toList, c ∈ "0123456789abcdefABCDEF".toList

/-- What git is told to check out for a revision of a fork: a hash as it is, and a branch as one of
the fork's remote. -/
inductive Denotes (owner revision : String) : String → Prop where
  | hash (hash : IsHash revision) : Denotes owner revision revision
  | branch (branch : ¬IsHash revision) : Denotes owner revision (owner ++ "/" ++ revision)

theorem isHexDigit_iff (c : Char) :
    isHexDigit c = true ↔ c ∈ "0123456789abcdefABCDEF".toList := by
  have codes : ∀ code ∈ List.range' 48 10 ++ List.range' 97 6 ++ List.range' 65 6,
      Char.ofNat code ∈ "0123456789abcdefABCDEF".toList := by decide +kernel
  have digits : "0123456789abcdefABCDEF".toList.all isHexDigit = true := by decide
  refine ⟨fun digit => ?_, List.all_eq_true.mp digits c⟩
  have listed := codes c.toNat
  rw [Char.ofNat_toNat] at listed
  apply listed
  rw [List.mem_append, List.mem_append, List.mem_range'_1, List.mem_range'_1, List.mem_range'_1]
  unfold isHexDigit Target.hexValue? at digit
  split at digit
  · next range => exact .inl (.inl ⟨range.1, Nat.lt_succ_of_le range.2⟩)
  · split at digit
    · next range => exact .inl (.inr ⟨range.1, Nat.lt_succ_of_le range.2⟩)
    · split at digit
      · next range => exact .inr ⟨range.1, Nat.lt_succ_of_le range.2⟩
      · cases digit

theorem isCommitHash_iff (revision : String) : isCommitHash revision = true ↔ IsHash revision := by
  unfold isCommitHash IsHash
  rw [Bool.and_eq_true, beq_iff_eq, List.all_eq_true]
  exact and_congr_right fun _ => forall₂_congr fun c _ => isHexDigit_iff c

theorem denotes_checkoutTarget (owner revision : String) :
    Denotes owner revision (checkoutTarget owner revision) := by
  unfold checkoutTarget
  split
  · next hash => exact .hash ((isCommitHash_iff revision).mp hash)
  · next branch => exact .branch (branch ∘ (isCommitHash_iff revision).mpr)

end Git

namespace Host

variable (host : Host σ)

def gitCommand (arguments : List String) : Command :=
  { (Command.ofProgram "git" arguments).inside host.repository with captured := true }

theorem comesTo_git (arguments : List String) :
    (host.journaled.git arguments).ComesTo fun result acts => ∃ launch,
      acts = [.launched launch] ∧ launch.command = host.gitCommand arguments ∧
        result = launch.output :=
  host.comesTo_outputOf _

theorem comesTo_discard_git (arguments : List String) :
    (discard <| host.journaled.git arguments).ComesTo (Running [host.gitCommand arguments]) := by
  refine ComesTo.map (host.comesTo_git arguments) ?_
  rintro _ acts ⟨launch, rfl, launched, rfl⟩
  cases output : launch.output with
  | ok text => exact .goesOn launched output .done
  | error failure => exact .fails launched output

def checkoutCommands (listing owner repo target : String) : List Command :=
  (if owner ∈ Git.remotes listing then []
    else [host.gitCommand
      ["remote", "add", owner, "https://github.com/" ++ owner ++ "/" ++ repo ++ ".git"]])
    ++ [host.gitCommand ["fetch", owner], host.gitCommand ["checkout", target]]

/-- A checkout of a fork: it asks for the remotes and goes by their listing. -/
inductive CheckingOut (owner repo target : String) : Except Failure Unit → List Act → Prop where
  | unlisted {launch : Launch} {failure : Failure}
      (launched : launch.command = host.gitCommand ["remote"])
      (failed : launch.output = .error failure) :
      CheckingOut owner repo target (.error failure) [.launched launch]
  | listed {launch : Launch} {listing : String} {result : Except Failure Unit} {acts : List Act}
      (launched : launch.command = host.gitCommand ["remote"])
      (succeeded : launch.output = .ok listing)
      (running : Running (host.checkoutCommands listing owner repo target) result acts) :
      CheckingOut owner repo target result (.launched launch :: acts)

theorem comesTo_checkoutFork (owner repo revision : String) :
    (host.journaled.checkoutFork owner repo revision).ComesTo
      (host.CheckingOut owner repo (Git.checkoutTarget owner revision)) := by
  have fetches : (do
      discard <| host.journaled.git ["fetch", owner]
      discard <| host.journaled.git ["checkout", Git.checkoutTarget owner revision]).ComesTo
        (Running [host.gitCommand ["fetch", owner],
          host.gitCommand ["checkout", Git.checkoutTarget owner revision]]) :=
    Running.bind (host.comesTo_discard_git _) (host.comesTo_discard_git _)
  unfold checkoutFork
  refine (host.comesTo_git ["remote"]).bind ?_ ?_
  · rintro failure acts ⟨launch, rfl, launched, heard⟩
    exact .unlisted launched heard.symm
  · rintro listing acts ⟨launch, rfl, launched, heard⟩
    refine ComesTo.mono (P := Running (host.checkoutCommands listing owner repo _)) ?_
      fun _ _ running => .listed launched heard.symm running
    unfold checkoutCommands
    by_cases there : owner ∈ Git.remotes listing
    · have listed : (!(Git.remotes listing).contains owner) = false := by simpa using there
      rw [listed, if_pos there]
      exact fetches
    · have unlisted : (!(Git.remotes listing).contains owner) = true := by simpa using there
      rw [unlisted, if_neg there]
      exact Running.bind (host.comesTo_discard_git _) fetches

end Host

end ClusterHarness
