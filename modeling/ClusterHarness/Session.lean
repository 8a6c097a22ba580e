import ClusterHarness.Error

/-!
# Sessions

A session acts on a state of what surrounds it and ends with a value or an error of the harness.
-/

namespace ClusterHarness

abbrev Session (σ α : Type) := ExceptT Error (StateM σ) α

def Session.attempt {σ α : Type} (session : Session σ α) : StateM σ (Except Error α) :=
  session.run

/-- Of two computations in turn the second one starts where the first one ended. -/
theorem stateM_bind_apply {σ α β : Type} (first : StateM σ α) (second : α → StateM σ β) (s : σ) :
    (first >>= second) s = second (first s).1 (first s).2 :=
  rfl

/-- What two computations in turn come to when the first one may fail. -/
theorem exceptT_run_bind {ε σ α β : Type} (first : ExceptT ε (StateM σ) α)
    (second : α → ExceptT ε (StateM σ) β) (s : σ) :
    (first >>= second).run s =
      match first.run s with
      | (.ok value, rest) => (second value).run rest
      | (.error e, rest) => (.error e, rest) := by
  rw [ExceptT.run_bind, stateM_bind_apply]
  cases first.run s with
  | mk result rest => cases result <;> rfl

theorem exceptT_run_bind_eq_ok {ε σ α β : Type} {first : ExceptT ε (StateM σ) α}
    {second : α → ExceptT ε (StateM σ) β} {s last : σ} {result : β} :
    (first >>= second).run s = (.ok result, last) ↔
      ∃ value rest, first.run s = (.ok value, rest) ∧
        (second value).run rest = (.ok result, last) := by
  rw [exceptT_run_bind]
  cases first.run s with
  | mk outcome rest =>
      constructor
      · intro ran
        cases outcome with
        | ok value => exact ⟨value, rest, rfl, ran⟩
        | error e => cases ran
      · rintro ⟨value, after, same, ran⟩
        cases same
        exact ran

end ClusterHarness
