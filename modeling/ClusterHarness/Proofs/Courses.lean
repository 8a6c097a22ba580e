import Mathlib.Data.List.Forall2
import ClusterHarness.Session

/-!
# Courses of computations

A computation whose state has a journal ends with a value or an error and adds notes to the
journal.  What is known of both is put together as computations are, by one rule for each way to do
so.  A loop that treats items one after the other and stops at the first failure has one rule for
all such loops, which goes by induction on the items.
-/

namespace ClusterHarness

variable {σ η ε ι ο α β : Type}

theorem exceptT_run_map (f : α → β) (computation : ExceptT ε (StateM σ) α) (s : σ) :
    (f <$> computation).run s = ((computation.run s).1.map f, (computation.run s).2) := by
  rw [ExceptT.run_map]
  rfl

/-- From wherever it starts, the computation ends with such a result and adds such notes. -/
def Yields (computation : ExceptT ε (StateM (σ × List η)) α) (post : Except ε α → List η → Prop) :
    Prop :=
  ∀ s before, ∃ result t notes,
    computation.run (s, before) = (result, (t, before ++ notes)) ∧ post result notes

/-- Each item has been treated, with a value and notes. -/
def Treated (Treats : ι → Except ε ο → List η → Prop) (items : List ι)
    (pieces : List (ο × List η)) : Prop :=
  List.Forall₂ (fun item piece => Treats item (.ok piece.1) piece.2) items pieces

/-- Items are treated one after the other, and the notes on them follow one another.  Either all
items have been treated, or the first failure has ended it and no value is left. -/
inductive InTurn (Treats : ι → Except ε ο → List η → Prop) (items : List ι) :
    Except ε (List ο) → List η → Prop where
  | complete {pieces : List (ο × List η)} (each : Treated Treats items pieces) :
      InTurn Treats items (.ok (pieces.map Prod.fst)) (pieces.flatMap Prod.snd)
  | broken {before after : List ι} {item : ι} {pieces : List (ο × List η)} {cause : ε}
      {notes : List η} (split : items = before ++ item :: after)
      (each : Treated Treats before pieces) (fails : Treats item (.error cause) notes) :
      InTurn Treats items (.error cause) (pieces.flatMap Prod.snd ++ notes)

variable {Treats : ι → Except ε ο → List η → Prop} {item : ι} {items : List ι}

/-- What holds of the notes on each item holds of all notes. -/
theorem Treated.forall_notes {K : η → Prop} {pieces : List (ο × List η)}
    (treated : Treated Treats items pieces)
    (each : ∀ item ∈ items, ∀ outcome notes, Treats item outcome notes → ∀ n ∈ notes, K n) :
    ∀ n ∈ pieces.flatMap Prod.snd, K n := by
  induction treated with
  | nil => nofun
  | cons first _ ih =>
      obtain ⟨here, others⟩ := List.forall_mem_cons.mp each
      exact List.forall_mem_append.mpr ⟨here _ _ first, ih others⟩

namespace InTurn

variable {result : Except ε (List ο)} {notes more : List η}

theorem nil : InTurn Treats [] (.ok []) [] := complete .nil

theorem stops {cause : ε} (fails : Treats item (.error cause) notes) :
    InTurn Treats (item :: items) (.error cause) notes := by
  show InTurn Treats ([] ++ item :: items) (.error cause)
    (([] : List (ο × List η)).flatMap Prod.snd ++ notes)
  exact broken rfl .nil fails

/-- Once an item has been treated the rest of the items decides. -/
theorem cons {value : ο} (treated : Treats item (.ok value) notes)
    (others : InTurn Treats items result more) :
    InTurn Treats (item :: items) (result.map (value :: ·)) (notes ++ more) := by
  cases others with
  | @complete pieces each =>
      show InTurn Treats (item :: items) (.ok (((value, notes) :: pieces).map Prod.fst))
        (((value, notes) :: pieces).flatMap Prod.snd)
      exact complete (.cons treated each)
  | @broken before after last pieces cause final split each fails =>
      have grown : item :: items = (item :: before) ++ last :: after :=
        congrArg (item :: ·) split
      rw [← List.append_assoc]
      show InTurn Treats (item :: items) (.error cause)
        (((value, notes) :: pieces).flatMap Prod.snd ++ final)
      exact broken grown (.cons treated each) fails

theorem forall_notes {K : η → Prop} (turn : InTurn Treats items result notes)
    (each : ∀ item ∈ items, ∀ outcome notes, Treats item outcome notes → ∀ n ∈ notes, K n) :
    ∀ n ∈ notes, K n := by
  cases turn with
  | complete treated => exact treated.forall_notes each
  | broken split treated fails =>
      subst split
      obtain ⟨earlier, later⟩ := List.forall_mem_append.mp each
      exact List.forall_mem_append.mpr
        ⟨treated.forall_notes earlier, later _ List.mem_cons_self _ _ fails⟩

end InTurn

/-- Where something stands in a list of two parts. -/
theorem append_eq_append_cons {first second before after : List α} {x : α}
    (parts : first ++ second = before ++ x :: after) :
    (∃ more, first = before ++ x :: more) ∨
      ∃ more, before = first ++ more ∧ second = more ++ x :: after := by
  rcases List.append_eq_append_iff.mp parts with ⟨more, rfl, behind⟩ | ⟨more, rfl, behind⟩
  · exact Or.inr ⟨more, rfl, behind⟩
  · cases more with
    | nil => exact Or.inr ⟨[], by simp, behind.symm⟩
    | cons y more =>
        cases behind
        exact Or.inl ⟨more, rfl⟩

/-! ## Rules -/

variable {computation : ExceptT ε (StateM (σ × List η)) α}
  {next : α → ExceptT ε (StateM (σ × List η)) β}
  {P : Except ε α → List η → Prop} {Q : Except ε β → List η → Prop}

theorem Yields.mono {weaker : Except ε α → List η → Prop} (yields : Yields computation P)
    (implied : ∀ result notes, P result notes → weaker result notes) :
    Yields computation weaker := by
  intro s before
  obtain ⟨result, t, notes, ran, known⟩ := yields s before
  exact ⟨result, t, notes, ran, implied result notes known⟩

theorem yields_pure {value : α} (holds : P (.ok value) []) :
    Yields (pure value : ExceptT ε (StateM (σ × List η)) α) P := fun s before =>
  ⟨_, s, [], by rw [List.append_nil]; rfl, holds⟩

theorem yields_throw {cause : ε} (holds : P (.error cause) []) :
    Yields (throw cause : ExceptT ε (StateM (σ × List η)) α) P := fun s before =>
  ⟨_, s, [], by rw [List.append_nil]; rfl, holds⟩

/-- The notes of two computations in turn follow one another, unless the first one fails. -/
theorem Yields.bind (head : Yields computation P)
    (fails : ∀ cause notes, P (.error cause) notes → Q (.error cause) notes)
    (tail : ∀ value notes, P (.ok value) notes →
      Yields (next value) fun result more => Q result (notes ++ more)) :
    Yields (computation >>= next) Q := by
  intro s before
  obtain ⟨result, t, notes, ran, known⟩ := head s before
  rw [exceptT_run_bind, ran]
  cases result with
  | error cause => exact ⟨_, t, notes, rfl, fails cause notes known⟩
  | ok value =>
      obtain ⟨result, u, more, ranOn, knownOn⟩ := tail value notes known t (before ++ notes)
      exact ⟨result, u, notes ++ more, by rw [← List.append_assoc, ← ranOn], knownOn⟩

theorem Yields.map {f : α → β} (yields : Yields computation P)
    (holds : ∀ result notes, P result notes → Q (result.map f) notes) :
    Yields (f <$> computation) Q := by
  intro s before
  obtain ⟨result, t, notes, ran, known⟩ := yields s before
  exact ⟨_, t, notes, by rw [exceptT_run_map, ran], holds result notes known⟩

/-- A loop that treats items one after the other and puts together what they come to. -/
theorem yields_inTurn {whole : List ο → α}
    {put : ο → α → α} {step : ι → ExceptT ε (StateM (σ × List η)) ο}
    {loop : List ι → ExceptT ε (StateM (σ × List η)) α}
    (whole_cons : ∀ value values, whole (value :: values) = put value (whole values))
    (empty : loop [] = pure (whole []))
    (cons : ∀ item items, loop (item :: items) =
      step item >>= fun value => put value <$> loop items)
    (treats : ∀ item, Yields (step item) (Treats item)) (items : List ι) :
    Yields (loop items) fun result notes =>
      ∃ outcome, InTurn Treats items outcome notes ∧ result = outcome.map whole := by
  induction items with
  | nil =>
      rw [empty]
      exact yields_pure ⟨.ok [], .nil, rfl⟩
  | cons item items ih =>
      rw [cons]
      refine (treats item).bind (fun _ _ fails => ⟨.error _, .stops fails, rfl⟩) ?_
      intro value notes treated
      refine ih.map ?_
      rintro _ more ⟨outcome, others, rfl⟩
      refine ⟨_, .cons treated others, ?_⟩
      -- An error of a later item passes through, so nothing is put together then.
      cases outcome with
      | error => rfl
      | ok values => exact congrArg Except.ok (whole_cons value values).symm

end ClusterHarness
