import ClusterHarness.Json.Basic
import Mathlib.Data.List.Nodup

/-!
# Sorted form

Entries in the order of their names stay as they are when they are sorted, so a dictionary is made
of its own entries, and a value in sorted form is its own sorted form.
-/

namespace ClusterHarness

namespace Entries

variable {α : Type}

/-- A name above all others is inserted at the end. -/
theorem insert_of_above {name : String} {value : α} {entries : List (String × α)}
    (above : ∀ e ∈ entries, e.1 < name) :
    insert name value entries = entries ++ [(name, value)] := by
  induction entries with
  | nil => rfl
  | cons entry rest ih =>
      obtain ⟨k, v⟩ := entry
      have below : k < name := above _ List.mem_cons_self
      have different : name ≠ k := fun same => String.lt_irrefl _ (same ▸ below)
      have after : ¬name < k := String.lt_asymm below
      rw [insert, if_neg different, if_neg after,
        ih fun e member => above e (List.mem_cons_of_mem _ member)]
      rfl

theorem foldl_insert_of_ordered {entries sorted : List (String × α)}
    (ordered : Ordered (sorted ++ entries)) :
    entries.foldl (fun sorted pair => insert pair.1 pair.2 sorted) sorted = sorted ++ entries := by
  induction entries generalizing sorted with
  | nil => exact (List.append_nil sorted).symm
  | cons entry rest ih =>
      have above : ∀ e ∈ sorted, e.1 < entry.1 := fun e member =>
        (List.pairwise_append.mp ordered).2.2 e member entry List.mem_cons_self
      rw [List.append_cons] at ordered ⊢
      rw [List.foldl_cons, insert_of_above above, ih ordered]

/-- Entries in order stay as they are. -/
theorem sort_of_ordered {entries : List (String × α)} (ordered : Ordered entries) :
    sort entries = entries := by
  rw [sort, foldl_insert_of_ordered (List.nil_append entries ▸ ordered), List.nil_append]

theorem mem_of_mem_foldl {pairs sorted : List (String × α)} {e : String × α}
    (member : e ∈ pairs.foldl (fun sorted pair => insert pair.1 pair.2 sorted) sorted) :
    e ∈ pairs ∨ e ∈ sorted := by
  induction pairs generalizing sorted with
  | nil => exact Or.inr member
  | cons pair rest ih =>
      rcases ih member with later | inserted
      · exact Or.inl (List.mem_cons_of_mem _ later)
      · rcases mem_insert inserted with rfl | earlier
        · exact Or.inl List.mem_cons_self
        · exact Or.inr earlier

/-- Sorting adds nothing. -/
theorem mem_of_mem_sort {pairs : List (String × α)} {e : String × α} (member : e ∈ sort pairs) :
    e ∈ pairs :=
  (mem_of_mem_foldl member).resolve_right List.not_mem_nil

/-- Each name has one entry. -/
theorem find?_of_mem {entries : List (String × α)} (ordered : Ordered entries)
    {e : String × α} (member : e ∈ entries) : entries.find? (·.1 == e.1) = some e := by
  induction entries with
  | nil => cases member
  | cons first rest ih =>
      obtain ⟨above, ordered⟩ := List.pairwise_cons.mp ordered
      rcases List.mem_cons.mp member with rfl | later
      · exact List.find?_cons_of_pos (beq_self_eq_true _)
      · have different : first.1 ≠ e.1 := fun same =>
          String.lt_irrefl _ (same ▸ above e later)
        rw [List.find?_cons_of_neg (by simpa using different)]
        exact ih ordered later

theorem find?_insert (name : String) (value : α) (entries : List (String × α)) (other : String) :
    (insert name value entries).find? (·.1 == other) =
      if name = other then some (name, value) else entries.find? (·.1 == other) := by
  induction entries with
  | nil => by_cases same : name = other <;> simp [insert, same]
  | cons entry rest ih =>
      obtain ⟨k, v⟩ := entry
      unfold insert
      split
      · next replaced => by_cases same : name = other <;> simp [← replaced, same]
      · split
        · by_cases same : name = other <;> simp [same]
        · next different _ =>
            rw [List.find?_cons, List.find?_cons, ih]
            by_cases same : name = other
            · have passed : (k == other) = false := by simpa [← same] using Ne.symm different
              simp [passed, same]
            · simp [same]

theorem find?_foldl_insert (pairs sorted : List (String × α)) (name : String) :
    (pairs.foldl (fun sorted pair => insert pair.1 pair.2 sorted) sorted).find? (·.1 == name) =
      (pairs.reverse.find? (·.1 == name)).or (sorted.find? (·.1 == name)) := by
  induction pairs generalizing sorted with
  | nil => rfl
  | cons pair rest ih =>
      obtain ⟨k, v⟩ := pair
      rw [List.foldl_cons, ih, find?_insert, List.reverse_cons, List.find?_append, Option.or_assoc]
      by_cases same : k = name <;> simp [same]

end Entries

/-- A dictionary is made of its entries. -/
theorem Dictionary.ofList_entries {α : Type} (d : Dictionary α) : ofList d.entries = d := by
  obtain ⟨entries, ordered⟩ := d
  simp only [ofList, Entries.sort_of_ordered ordered]

theorem Dictionary.get?_of_mem {α : Type} (d : Dictionary α) {e : String × α}
    (member : e ∈ d.entries) : d.get? e.1 = some e.2 := by
  rw [get?, Entries.find?_of_mem d.ordered member, Option.map_some]

namespace Dictionary

variable {α : Type}

theorem get?_insert (d : Dictionary α) (name : String) (value : α) (other : String) :
    (d.insert name value).get? other = if name = other then some value else d.get? other := by
  unfold get? insert
  rw [Entries.find?_insert]
  split <;> rfl

/-- The last value of a name counts. -/
theorem get?_ofList (pairs : List (String × α)) (name : String) :
    (ofList pairs).get? name = (pairs.reverse.find? (·.1 == name)).map (·.2) := by
  unfold get? ofList Entries.sort
  rw [Entries.find?_foldl_insert, List.find?_nil, Option.or_none]

theorem get?_ofList_eq_some {pairs : List (String × α)} (distinct : (pairs.map (·.1)).Nodup)
    {name : String} {value : α} :
    (ofList pairs).get? name = some value ↔ (name, value) ∈ pairs := by
  rw [get?_ofList, Option.map_eq_some_iff]
  constructor
  · rintro ⟨⟨k, v⟩, found, rfl⟩
    have same : k = name := by simpa using List.find?_some found
    exact same ▸ List.mem_reverse.mp (List.mem_of_find?_eq_some found)
  · intro member
    have listed : (pairs.reverse.find? (·.1 == name)).isSome := by
      rw [List.find?_isSome]
      exact ⟨(name, value), List.mem_reverse.mpr member, beq_self_eq_true name⟩
    obtain ⟨⟨k, v⟩, found⟩ := Option.isSome_iff_exists.mp listed
    have same : k = name := by simpa using List.find?_some found
    have other : (k, v) ∈ pairs := List.mem_reverse.mp (List.mem_of_find?_eq_some found)
    have one : (k, v) = (name, value) := List.inj_on_of_nodup_map distinct other member same
    exact ⟨(k, v), found, congrArg Prod.snd one⟩

end Dictionary

namespace Json

/-- The value is in the form in which values are written. -/
def InOrder (j : Json) : Prop := j.sorted = j

theorem sortedMembers_of_inOrder {members : List (String × Json)}
    (each : ∀ m ∈ members, m.2.InOrder) : sortedMembers members = members := by
  induction members with
  | nil => rfl
  | cons m rest ih =>
      have first : m.2.sorted = m.2 := each m List.mem_cons_self
      rw [sortedMembers, first, ih fun m member => each m (List.mem_cons_of_mem _ member)]

mutual

theorem inOrder_sorted : (j : Json) → j.sorted.InOrder
  | .null => rfl
  | .bool _ => rfl
  | .int _ => rfl
  | .float _ => rfl
  | .str _ => rfl
  | .arr items => congrArg Json.arr (sortedItems_sortedItems items)
  | .obj members => by
      have each : ∀ m ∈ sortMembers (sortedMembers members), m.2.InOrder := fun m member =>
        inOrder_of_mem_sortedMembers members m (Entries.mem_of_mem_sort member)
      have ordered : Entries.Ordered (sortMembers (sortedMembers members)) :=
        Entries.ordered_sort _
      show Json.obj (sortMembers (sortedMembers (sortMembers (sortedMembers members)))) = _
      rw [sortedMembers_of_inOrder each, sortMembers, Entries.sort_of_ordered ordered]
      rfl

theorem sortedItems_sortedItems : (items : List Json) →
    sortedItems (sortedItems items) = sortedItems items
  | [] => rfl
  | item :: rest => by
      have first : item.sorted.sorted = item.sorted := inOrder_sorted item
      rw [sortedItems, sortedItems, first, sortedItems_sortedItems rest]

theorem inOrder_of_mem_sortedMembers : (members : List (String × Json)) →
    ∀ m ∈ sortedMembers members, m.2.InOrder
  | [] => fun _ member => nomatch member
  | (_, value) :: rest => by
      intro m member
      rcases List.mem_cons.mp member with rfl | later
      · exact inOrder_sorted value
      · exact inOrder_of_mem_sortedMembers rest m later

end

end Json

end ClusterHarness
