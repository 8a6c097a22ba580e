import ClusterHarness.Proofs.Time.Calendar
import ClusterHarness.Resource.Codec

/-!
# What codecs give

A property of all that a codec reads comes from properties of its parts: of a record it holds as
soon as the parts grant it, and of a list if it holds of each item.
-/

namespace ClusterHarness

variable {σ α β : Type}

theorem exists_of_mem_mapM {f : α → Option β} {l : List α} {made : List β}
    (each : l.mapM f = some made) {b : β} (member : b ∈ made) : ∃ a ∈ l, f a = some b := by
  induction l generalizing made with
  | nil =>
      cases each
      cases member
  | cons a rest ih =>
      rw [List.mapM_cons] at each
      obtain ⟨first, got, each⟩ := Option.bind_eq_some_iff.mp each
      obtain ⟨others, gotOthers, same⟩ := Option.bind_eq_some_iff.mp each
      cases same
      rcases List.mem_cons.mp member with rfl | later
      · exact ⟨a, List.mem_cons_self, got⟩
      · obtain ⟨earlier, listed, got⟩ := ih gotOthers later
        exact ⟨earlier, List.mem_cons_of_mem _ listed, got⟩

def Codec.Gives (c : Codec α) (P : α → Prop) : Prop := ∀ j a, c.read j = some a → P a

/-- What the parts make has the property, from the members of an object or the items of an array. -/
structure Parts.Give (parts : Parts σ α) (P : α → Prop) : Prop where
  ofMembers : ∀ members a, parts.ofMembers members = some a → P a
  ofItems : ∀ items a rest, parts.ofItems items = some (a, rest) → P a

namespace Parts

theorem give_make {a : α} {P : α → Prop} (holds : P a) : (make a : Parts σ α).Give P where
  ofMembers members b read := by
    cases read
    exact holds
  ofItems items b rest read := by
    cases read
    exact holds

/-- One more part may turn one property into another. -/
theorem Give.and {parts : Parts σ (α → β)} {part : Parts σ α} {P : (α → β) → Prop} {Q : α → Prop}
    {R : β → Prop} (give : parts.Give P) (gives : part.Give Q)
    (combine : ∀ f a, P f → Q a → R (f a)) : (parts.and part).Give R where
  ofMembers members b read := by
    obtain ⟨f, gotF, read⟩ := Option.bind_eq_some_iff.mp read
    obtain ⟨a, gotA, same⟩ := Option.bind_eq_some_iff.mp read
    cases same
    exact combine f a (give.ofMembers members f gotF) (gives.ofMembers members a gotA)
  ofItems items b rest read := by
    obtain ⟨⟨f, others⟩, gotF, read⟩ := Option.bind_eq_some_iff.mp read
    obtain ⟨⟨a, left⟩, gotA, same⟩ := Option.bind_eq_some_iff.mp read
    cases same
    exact combine f a (give.ofItems items f others gotF) (gives.ofItems others a _ gotA)

theorem give_required {name : String} {c : Codec α} {get : σ → α} {P : α → Prop}
    (gives : c.Gives P) : (required name c get).Give P where
  ofMembers members a read := by
    dsimp only [required] at read
    split at read
    · exact gives _ a read
    · cases read
  ofItems items a rest read := by
    cases items with
    | nil => cases read
    | cons j items =>
        obtain ⟨b, got, same⟩ := Option.map_eq_some_iff.mp read
        cases same
        exact gives j a got

theorem give_optional {name : String} {c : Codec α} {absent : α} {omitted : α → Bool}
    {get : σ → α} {P : α → Prop} (gives : c.Gives P) (holds : P absent) :
    (optional name c absent omitted get).Give P where
  ofMembers members a read := by
    dsimp only [optional] at read
    split at read
    · cases read
      exact holds
    · exact gives _ a read
    · cases read
  ofItems items a rest read := by
    cases items with
    | nil =>
        cases read
        exact holds
    | cons j items =>
        obtain ⟨b, got, same⟩ := Option.map_eq_some_iff.mp read
        cases same
        exact gives j a got

/-- Of several members of one name the last counts, and there may be none. -/
theorem eq_none_or_read_of_mapM {c : Codec α} {values : List Json} {read : List (Option α)}
    (each : values.mapM c.nullable.read = some read) :
    read.getLast?.join = none ∨ ∃ j, c.nullable.read j = some read.getLast?.join := by
  cases last : read.getLast? with
  | none => exact Or.inl rfl
  | some o =>
      obtain ⟨j, _, got⟩ := exists_of_mem_mapM each (List.mem_of_getLast? last)
      exact Or.inr ⟨j, got⟩

theorem give_lenient {name : String} {c : Codec α} {get : σ → Option α} {P : Option α → Prop}
    (gives : c.nullable.Gives P) (holds : P none) : (lenient name c get).Give P where
  ofMembers members o read := by
    obtain ⟨values, each, same⟩ := Option.map_eq_some_iff.mp read
    cases same
    rcases eq_none_or_read_of_mapM each with none | ⟨j, got⟩
    · rw [none]
      exact holds
    · exact gives j _ got
  ofItems _ _ _ read := nomatch read

theorem give_lenientOr {name : String} {c : Codec α} {absent : α} {get : σ → α} {P : α → Prop}
    (gives : c.nullable.Gives fun o => ∀ a ∈ o, P a) (holds : P absent) :
    (lenientOr name c absent get).Give P where
  ofMembers members a read := by
    obtain ⟨values, each, same⟩ := Option.map_eq_some_iff.mp read
    cases same
    rcases eq_none_or_read_of_mapM each with none | ⟨j, got⟩
    · rw [none]
      exact holds
    · cases last : values.getLast?.join with
      | none => exact holds
      | some a => exact gives j _ got a last
  ofItems _ _ _ read := nomatch read

theorem give_true (parts : Parts σ α) : parts.Give fun _ => True :=
  ⟨fun _ _ _ => trivial, fun _ _ _ _ => trivial⟩

end Parts

namespace Codec

theorem gives_record {parts : Parts α α} {P : α → Prop} (give : parts.Give P) :
    (record parts).Gives P := by
  intro j a read
  cases j with
  | obj members => exact give.ofMembers members a read
  | arr items =>
      dsimp only [record] at read
      split at read
      · next made =>
          cases read
          exact give.ofItems items a [] made
      · cases read
  | _ => cases read

theorem gives_openRecord {parts : Parts α α} {P : α → Prop} (give : parts.Give P) :
    (openRecord parts).Gives P := by
  intro j a read
  cases j with
  | obj members => exact give.ofMembers members a read
  | _ => cases read

theorem gives_list {c : Codec α} {P : α → Prop} (gives : c.Gives P) :
    c.list.Gives fun l => ∀ a ∈ l, P a := by
  intro j l read
  cases j with
  | arr items =>
      intro a member
      obtain ⟨j, _, got⟩ := exists_of_mem_mapM read member
      exact gives j a got
  | _ => cases read

/-- Timestamps that are read are ones of the calendar. -/
theorem gives_timestamp : timestamp.Gives Timestamp.Known := by
  intro j t read
  cases j with
  | str text => exact Timestamp.known_of_parse? read
  | _ => cases read

end Codec

end ClusterHarness
