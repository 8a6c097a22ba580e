import ClusterHarness.Resource.Condition
import Mathlib.Data.List.Induction

/-!
# Conditions that are set one after the other

A list on which conditions are set, empty at first, is known from its history.  Each type that was
set has one entry, in the order in which the types came up.  An entry says what was set last, and its
time is that of the setting which gave it its status.
-/

namespace ClusterHarness

namespace Condition

/-! ## One setting -/

@[simp] theorem stamped_type (now : Timestamp) (c : Condition) : (stamped now c).type = c.type :=
  rfl

@[simp] theorem updated_type (now : Timestamp) (old new : Condition) :
    (updated now old new).type = old.type :=
  rfl

section Set

variable (now : Timestamp) (new : Condition) (conditions : List Condition)

theorem map_type_set :
    (set now new conditions).map (·.type) =
      if new.type ∈ conditions.map (·.type) then conditions.map (·.type)
      else conditions.map (·.type) ++ [new.type] := by
  induction conditions with
  | nil => rfl
  | cons c rest ih =>
      unfold set
      by_cases same : c.type = new.type
      · simp [same]
      · have other : new.type ≠ c.type := Ne.symm same
        rw [if_neg same, List.map_cons, ih]
        by_cases listed : new.type ∈ rest.map (·.type)
        · simp [listed]
        · rw [if_neg listed, List.map_cons, if_neg (by simpa [other] using listed)]
          rfl

/-- The entry of the type is updated, or inserted if there is none. -/
theorem find?_set_self :
    find? (set now new conditions) new.type =
      some ((find? conditions new.type).elim (stamped now new) fun old => updated now old new) := by
  induction conditions with
  | nil => simp [set, find?]
  | cons c rest ih =>
      unfold set
      by_cases same : c.type = new.type
      · simp [find?, same]
      · simpa [find?, same] using ih

theorem find?_set_of_ne {type : String} (other : type ≠ new.type) :
    find? (set now new conditions) type = find? conditions type := by
  induction conditions with
  | nil => simp [set, find?, other.symm]
  | cons c rest ih =>
      unfold set
      by_cases same : c.type = new.type
      · simp [find?, same, other.symm]
      · rw [if_neg same]
        by_cases here : c.type = type
        · simp [find?, here]
        · simpa [find?, here] using ih

/-- The entries of all other types stay as they are. -/
theorem filter_set :
    (set now new conditions).filter (·.type ≠ new.type) =
      conditions.filter (·.type ≠ new.type) := by
  induction conditions with
  | nil => simp [set]
  | cons c rest ih =>
      unfold set
      by_cases same : c.type = new.type
      · simp [same]
      · rw [if_neg same, List.filter_cons, List.filter_cons, ih]

theorem updated_updated (later : Timestamp) (old : Condition) :
    updated later (updated now old new) new = updated now old new := by
  simp [updated]

theorem updated_stamped (later : Timestamp) :
    updated later (stamped now new) new = stamped now new := by
  simp [updated, stamped]

theorem set_set (later : Timestamp) :
    set later new (set now new conditions) = set now new conditions := by
  induction conditions with
  | nil => simp [set, updated_stamped]
  | cons c rest ih =>
      by_cases same : c.type = new.type
      · simp [set, same, updated_updated]
      · simp [set, same, ih]

end Set

theorem find?_eq_some_of_mem {conditions : List Condition}
    (distinct : (conditions.map (·.type)).Nodup) {c : Condition} (member : c ∈ conditions) :
    find? conditions c.type = some c := by
  induction conditions with
  | nil => cases member
  | cons first rest ih =>
      obtain ⟨fresh, distinct⟩ := List.nodup_cons.mp distinct
      rcases List.mem_cons.mp member with rfl | later
      · simp [find?]
      · have other : first.type ≠ c.type := by
          intro same
          exact fresh (List.mem_map.mpr ⟨c, later, same.symm⟩)
        simpa [find?, other] using ih distinct later

/-! ## Histories -/

/-- A condition that is set, and the time that the clock shows then. -/
structure Setting where
  now : Timestamp
  condition : Condition

namespace Setting

def type (s : Setting) : String := s.condition.type

def status (s : Setting) : String := s.condition.status

/-- The time that the condition carries, or else the time of the clock. -/
def time (s : Setting) : Timestamp := s.condition.lastTransitionTime.getD s.now

end Setting

def after (history : List Setting) : List Condition :=
  history.foldl (fun conditions s => set s.now s.condition conditions) []

theorem after_concat (history : List Setting) (s : Setting) :
    after (history ++ [s]) = set s.now s.condition (after history) := by
  simp [after]

def last? (history : List Setting) (type : String) : Option Setting :=
  history.reverse.find? (·.type == type)

theorem last?_concat (history : List Setting) (s : Setting) (type : String) :
    last? (history ++ [s]) type = if s.type = type then some s else last? history type := by
  by_cases same : s.type = type <;> simp [last?, same]

/-- A setting turns its type when it is the first one of it, or differs in status from the one
before. -/
def Turns (history : List Setting) (s : Setting) : Prop :=
  ∀ prior, last? history s.type = some prior → prior.status ≠ s.status

/-- Of the settings that turned their type in a history, those that no later one of the type
followed. -/
inductive LastTurn : List Setting → Setting → Prop where
  | here {history : List Setting} {s : Setting} (turns : Turns history s) :
      LastTurn (history ++ [s]) s
  | before {history : List Setting} {s t : Setting} (last : LastTurn history t)
      (stays : s.type = t.type → ¬ Turns history s) : LastTurn (history ++ [s]) t

def untimed (c : Condition) : Condition := { c with lastTransitionTime := none }

@[simp] theorem untimed_stamped (now : Timestamp) (c : Condition) :
    (stamped now c).untimed = c.untimed :=
  rfl

theorem untimed_updated (now : Timestamp) {old new : Condition} (same : old.type = new.type) :
    (updated now old new).untimed = new.untimed := by
  simp [untimed, updated, same]

theorem find?_type {conditions : List Condition} {type : String} {c : Condition}
    (found : find? conditions type = some c) : c.type = type := by
  simpa using List.find?_some found

/-- An entry says what was set last of its type, and there is one as soon as something was. -/
theorem untimed_find?_after (history : List Setting) (type : String) :
    (find? (after history) type).map untimed = (last? history type).map (·.condition.untimed) := by
  induction history using List.reverseRecOn with
  | nil => rfl
  | append_singleton history s ih =>
      rw [after_concat, last?_concat]
      by_cases same : s.type = type
      · subst same
        rw [if_pos rfl, Setting.type, find?_set_self]
        cases found : find? (after history) s.condition.type with
        | none => rfl
        | some old => simp [untimed_updated s.now (find?_type found)]
      · rw [if_neg same, find?_set_of_ne _ _ _ (Ne.symm same), ih]

theorem status_find?_after (history : List Setting) (type : String) :
    (find? (after history) type).map (·.status) = (last? history type).map (·.status) := by
  have said := congrArg (Option.map (·.status)) (untimed_find?_after history type)
  simpa [untimed, Function.comp_def, Setting.status] using said

theorem turns_iff (history : List Setting) (s : Setting) :
    Turns history s ↔ (find? (after history) s.type).map (·.status) ≠ some s.status := by
  rw [status_find?_after, Turns]
  cases last? history s.type <;> simp

/-- The time of an entry is that of the setting that turned its type last. -/
theorem exists_lastTurn (history : List Setting) {type : String} {c : Condition}
    (found : find? (after history) type = some c) :
    ∃ s, LastTurn history s ∧ s.type = type ∧ c.lastTransitionTime = some s.time := by
  induction history using List.reverseRecOn generalizing c with
  | nil => cases found
  | append_singleton history s ih =>
      rw [after_concat] at found
      by_cases same : s.type = type
      · subst same
        rw [Setting.type, find?_set_self] at found
        cases before : find? (after history) s.condition.type with
        | none =>
            rw [before] at found
            cases found
            refine ⟨s, .here ((turns_iff history s).mpr ?_), rfl, rfl⟩
            rw [Setting.type, before]
            nofun
        | some old =>
            rw [before] at found
            cases found
            have turned : Turns history s ↔ old.status ≠ s.status := by
              rw [turns_iff, Setting.type, before, Option.map_some, ne_eq, Option.some.injEq]
            by_cases kept : old.status = s.status
            · obtain ⟨t, last, type, time⟩ := ih before
              refine ⟨t, .before last fun _ turns => turned.mp turns kept, type, ?_⟩
              show (if old.status = s.status then old.lastTransitionTime else _) = _
              rw [if_pos kept, time]
            · refine ⟨s, .here (turned.mpr kept), rfl, ?_⟩
              exact if_neg kept
      · rw [find?_set_of_ne _ _ _ (Ne.symm same)] at found
        obtain ⟨t, last, rfl, time⟩ := ih found
        exact ⟨t, .before last fun equal => absurd equal same, rfl, time⟩

theorem nodup_types_after (history : List Setting) : ((after history).map (·.type)).Nodup := by
  induction history using List.reverseRecOn with
  | nil => exact List.nodup_nil
  | append_singleton history s ih =>
      rw [after_concat, map_type_set]
      split
      · exact ih
      · next absent => simpa [List.nodup_append, ih] using absent

theorem eraseDups_concat {α : Type} [BEq α] [LawfulBEq α] [DecidableEq α] (l : List α) (a : α) :
    (l ++ [a]).eraseDups = if a ∈ l.eraseDups then l.eraseDups else l.eraseDups ++ [a] := by
  rw [List.eraseDups_append]
  by_cases known : a ∈ l
  · have again : [a].removeAll l = [] := by simpa [List.removeAll] using known
    rw [if_pos (List.mem_eraseDups.mpr known), again]
    simp
  · have fresh : [a].removeAll l = [a] := by simpa [List.removeAll] using known
    rw [if_neg (fun member => known (List.mem_eraseDups.mp member)), fresh]
    rfl

theorem types_after (history : List Setting) :
    (after history).map (·.type) = (history.map (·.type)).eraseDups := by
  induction history using List.reverseRecOn with
  | nil => rfl
  | append_singleton history s ih =>
      rw [after_concat, map_type_set, ih, List.map_append, List.map_singleton, eraseDups_concat]
      rfl

/-! ## What a history tells -/

/-- What is known of a list of conditions from its history, and what one more setting changes. -/
structure Kept (history : List Setting) : Prop where
  distinct : ((after history).map (·.type)).Nodup
  /-- The types are listed in the order in which they were inserted. -/
  in_order : (after history).map (·.type) = (history.map (·.type)).eraseDups
  says_last : ∀ c ∈ after history, ∃ s, last? history c.type = some s ∧
    c.untimed = s.condition.untimed
  timed_by_turn : ∀ c ∈ after history, ∃ s, LastTurn history s ∧ s.type = c.type ∧
    c.lastTransitionTime = some s.time
  /-- The settings that turn their type are those that insert an entry or change its status. -/
  turns_iff : ∀ s, Turns history s ↔
    (find? (after history) s.type).map (·.status) ≠
      (find? (after (history ++ [s])) s.type).map (·.status)
  others_unchanged : ∀ s, (after (history ++ [s])).filter (·.type ≠ s.type) =
    (after history).filter (·.type ≠ s.type)
  /-- A setting that is repeated, whenever that is, changes nothing. -/
  repeated : ∀ s later, after (history ++ [s] ++ [⟨later, s.condition⟩]) = after (history ++ [s])
  finds_last : ∀ type, (find? (after history) type).map untimed =
    (last? history type).map (·.condition.untimed)
  holds_last : ∀ type, holds (after history) type = (last? history type).any (·.condition.isTrue)

theorem holds_after (history : List Setting) (type : String) :
    holds (after history) type = (last? history type).any (·.condition.isTrue) := by
  have said := congrArg (Option.any isTrue) (untimed_find?_after history type)
  rw [Option.any_map, Option.any_map] at said
  exact said

/-- Every list of conditions is kept as its history tells. -/
theorem kept_after (history : List Setting) : Kept history where
  distinct := nodup_types_after history
  in_order := types_after history
  says_last := by
    intro c member
    have found := find?_eq_some_of_mem (nodup_types_after history) member
    have said := untimed_find?_after history c.type
    rw [found, Option.map_some] at said
    obtain ⟨s, last, same⟩ := Option.map_eq_some_iff.mp said.symm
    exact ⟨s, last, same.symm⟩
  timed_by_turn := by
    intro c member
    exact exists_lastTurn history (find?_eq_some_of_mem (nodup_types_after history) member)
  turns_iff := by
    intro s
    rw [status_find?_after (history ++ [s]), last?_concat, if_pos rfl, turns_iff]
    rfl
  others_unchanged := by
    intro s
    rw [after_concat]
    exact filter_set s.now s.condition (after history)
  repeated := by
    intro s later
    rw [after_concat, after_concat]
    exact set_set s.now s.condition (after history) later
  finds_last := untimed_find?_after history
  holds_last := holds_after history

end Condition

end ClusterHarness
