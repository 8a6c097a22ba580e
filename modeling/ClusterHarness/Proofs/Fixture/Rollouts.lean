import ClusterHarness.Proofs.Fixture.Teardown

/-!
# How long rollouts are waited for

The cluster's command takes a timeout as a number of a unit, and takes zero to mean that it waits
for ever.  It is told whole seconds.  So what is less than a second becomes zero, and a wait that
was to be short has no end.  What is too long for the command to hold it refuses.
-/

namespace ClusterHarness

variable {σ : Type}

/-! ## Values of flags -/

namespace Flag

/-- A unit of time in nanoseconds. -/
def unit? : List Char → Option Nat
  | ['n', 's'] => some 1
  | ['u', 's'] => some 1000
  | ['m', 's'] => some Duration.nanosPerMilli
  | ['s'] => some Duration.nanosPerSecond
  | ['m'] => some (60 * Duration.nanosPerSecond)
  | ['h'] => some (3600 * Duration.nanosPerSecond)
  | _ => none

/-- The time that a value stands for, in nanoseconds: a number of a unit, and no more than the
longest time that whoever reads it can hold.  Zero needs no unit. -/
def nanos? (longest : Nat) (value : List Char) : Option Nat :=
  let digits := value.takeWhile Char.isDigit
  let unit := value.dropWhile Char.isDigit
  if digits.isEmpty then none
  else if digits = ['0'] ∧ unit = [] then some 0
  else ((unit? unit).map (Nat.ofDigitChars 10 digits 0 * ·)).filter (· ≤ longest)

def value? (name argument : String) : Option (List Char) :=
  if name.toList <+: argument.toList then some (argument.toList.drop name.toList.length) else none

theorem nanos?_toDigits (longest n : Nat) {unit : Char} (notDigit : unit.isDigit = false)
    {rest : List Char} {nanos : Nat} (denotes : unit? (unit :: rest) = some nanos) :
    nanos? longest (Nat.toDigits 10 n ++ unit :: rest) =
      if n * nanos ≤ longest then some (n * nanos) else none := by
  have digits : ∀ c ∈ Nat.toDigits 10 n, c.isDigit = true := fun c member =>
    Nat.isDigit_of_mem_toDigits (by decide) (by decide) member
  have taken : (Nat.toDigits 10 n ++ unit :: rest).takeWhile Char.isDigit = Nat.toDigits 10 n := by
    rw [List.takeWhile_append_of_pos digits, List.takeWhile_cons_of_neg (by simp [notDigit]),
      List.append_nil]
  have dropped : (Nat.toDigits 10 n ++ unit :: rest).dropWhile Char.isDigit = unit :: rest := by
    rw [List.dropWhile_append_of_pos digits, List.dropWhile_cons_of_neg (by simp [notDigit])]
  have someDigits : (Nat.toDigits 10 n).isEmpty = false :=
    Bool.eq_false_iff.mpr fun empty => Nat.toDigits_ne_nil (List.isEmpty_iff.mp empty)
  rw [nanos?, taken, dropped, someDigits, denotes, Nat.ofDigitChars_ten_toDigits]
  simp [Option.filter_some]

theorem value?_append (name value : String) :
    value? name (name ++ value) = some value.toList := by
  rw [value?, String.toList_append, if_pos (List.prefix_append _ _), List.drop_left]

/-- A flag's value may be given in any unit. -/
example : (value? "--timeout=" "--timeout=5m").bind (nanos? (Nat.pow 2 63 - 1)) =
    some (Duration.ofSecs 300) := by
  decide

end Flag

/-! ## Waiting for rollouts -/

/-- The timeout that a command's last argument asks for, in nanoseconds. -/
def Command.timeoutAsked? (longest : Nat) (command : Command) : Option Nat :=
  (command.arguments.getLast?.bind (Flag.value? "--timeout=")).bind (Flag.nanos? longest)

namespace Duration

/-- A duration without what goes beyond its whole seconds. -/
def floor (d : Nat) : Nat := ofSecs (secs d)

theorem floor_le (d : Nat) : floor d ≤ d := Nat.div_mul_le_self d nanosPerSecond

theorem lt_floor_add (d : Nat) : d < floor d + nanosPerSecond := by
  have next : d < nanosPerSecond * (d / nanosPerSecond).succ :=
    Nat.lt_mul_div_succ d (by decide)
  rwa [Nat.mul_succ, Nat.mul_comm] at next

theorem floor_eq_zero_iff (d : Nat) : floor d = 0 ↔ d < nanosPerSecond := by
  rw [floor, ofSecs, secs, Nat.mul_eq_zero, Nat.div_eq_zero_iff]
  simp [nanosPerSecond]

end Duration

namespace Kubectl

def rolloutLaunches (kubectl : Kubectl) (bench : Bench σ) (ns resource : String) (timeout : Nat)
    (s : σ) : List Launch :=
  ((kubectl.rollout bench.journaled ns resource timeout).run (s, [])).2.2

/-- A single command is launched to wait for a rollout.  It is to wait for ever just if the timeout
says so, and else for the timeout, give or take less than a second. -/
def WaitsAsAsked (longest : Nat) (kubectl : Kubectl) (bench : Bench σ) (ns resource : String)
    (timeout : Nat) (s : σ) : Prop :=
  ∃ launch asked, kubectl.rolloutLaunches bench ns resource timeout s = [launch] ∧
    launch.command.timeoutAsked? longest = some asked ∧ (asked = 0 ↔ timeout = 0) ∧
    (timeout ≠ 0 →
      asked < timeout + Duration.nanosPerSecond ∧ timeout < asked + Duration.nanosPerSecond)

variable (longest : Nat) (kubectl : Kubectl) (bench : Bench σ) (ns resource : String)
  (timeout : Nat) (s : σ)

theorem timeoutArgument_asks :
    (Flag.value? "--timeout=" (timeoutArgument timeout)).bind (Flag.nanos? longest) =
      if Duration.floor timeout ≤ longest then some (Duration.floor timeout) else none := by
  have shown : (Nat.repr (Duration.secs timeout) ++ "s").toList =
      Nat.toDigits 10 (Duration.secs timeout) ++ ['s'] := by
    rw [String.toList_append, Nat.toList_repr]
    rfl
  rw [timeoutArgument, String.append_assoc, Flag.value?_append, Option.bind_some, shown]
  exact Flag.nanos?_toDigits longest _ (by decide) rfl

/-- What is launched asks for the whole seconds of the timeout, if these are not too many. -/
theorem rolloutLaunches_ask :
    ∃ launch, kubectl.rolloutLaunches bench ns resource timeout s = [launch] ∧
      launch.command.timeoutAsked? longest =
        if Duration.floor timeout ≤ longest then some (Duration.floor timeout) else none := by
  refine ⟨bench.launched (kubectl.run
    ["rollout", "status", "-n", ns, resource, timeoutArgument timeout]) s, ?_, ?_⟩
  · rw [rolloutLaunches, rollout, Bench.run_perform]
    rfl
  · exact timeoutArgument_asks longest timeout

theorem asked_eq_floor {launch : Launch} {asked : Nat}
    (launched : kubectl.rolloutLaunches bench ns resource timeout s = [launch])
    (asks : launch.command.timeoutAsked? longest = some asked) :
    asked = Duration.floor timeout ∧ Duration.floor timeout ≤ longest := by
  obtain ⟨launch', launched', asks'⟩ :=
    kubectl.rolloutLaunches_ask longest bench ns resource timeout s
  cases launched.symm.trans launched'
  obtain ⟨held, same⟩ := Option.ite_none_right_eq_some.mp (asks'.symm.trans asks)
  exact ⟨(Option.some.inj same).symm, held⟩

/-- A rollout is waited for as asked just if the timeout is zero, or a second at least and not too
long for the command: what is less than a second is waited for without end. -/
theorem waitsAsAsked_iff :
    kubectl.WaitsAsAsked longest bench ns resource timeout s ↔
      timeout = 0 ∨ Duration.nanosPerSecond ≤ timeout ∧ Duration.floor timeout ≤ longest := by
  have endless := Duration.floor_eq_zero_iff timeout
  constructor
  · rintro ⟨launch, asked, launched, asks, forever, _⟩
    obtain ⟨rfl, held⟩ := kubectl.asked_eq_floor longest bench ns resource timeout s launched asks
    rcases Nat.lt_or_ge timeout Duration.nanosPerSecond with short | long
    · exact Or.inl (forever.mp (endless.mpr short))
    · exact Or.inr ⟨long, held⟩
  · intro zeroOrLong
    have forever : Duration.floor timeout = 0 ↔ timeout = 0 := by
      rw [endless]
      rcases zeroOrLong with rfl | ⟨long, _⟩
      · exact iff_of_true (by decide) rfl
      · refine iff_of_false (Nat.not_lt.mpr long) fun zero => ?_
        rw [zero] at long
        exact absurd long (by decide)
    have held : Duration.floor timeout ≤ longest := by
      rcases zeroOrLong with zero | ⟨_, held⟩
      · rw [forever.mpr zero]
        exact Nat.zero_le longest
      · exact held
    obtain ⟨launch, launched, asks⟩ :=
      kubectl.rolloutLaunches_ask longest bench ns resource timeout s
    rw [if_pos held] at asks
    refine ⟨launch, Duration.floor timeout, launched, asks, forever, fun _ => ⟨?_, ?_⟩⟩
    · exact Nat.lt_of_le_of_lt (Duration.floor_le timeout) (Nat.lt_add_of_pos_right (by decide))
    · exact Duration.lt_floor_add timeout

/-- Half a second is waited for without end. -/
theorem not_waitsAsAsked_halfSecond :
    ¬ WaitsAsAsked (Nat.pow 2 63 - 1) ⟨"kubectl"⟩ Bench.foretold "build-service" "deployment/x"
      (Duration.ofMillis 500) [.exited 0] := by
  rintro ⟨launch, asked, launched, asks, forever, _⟩
  obtain ⟨rfl, _⟩ := asked_eq_floor _ ⟨"kubectl"⟩ Bench.foretold "build-service" "deployment/x" _ _
    launched asks
  exact absurd (forever.mp (by decide)) (by decide)

end Kubectl

end ClusterHarness
