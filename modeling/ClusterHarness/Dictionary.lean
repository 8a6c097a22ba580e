/-!
# Dictionaries

Values by name, in the order of the names and each name once.  Main statement: inserting keeps
the order, so every list of pairs makes a dictionary, in which the last value of a name counts.
-/

namespace ClusterHarness

namespace Entries

variable {α : Type}

/-- Inserts a value by name, in place of one of the same name. -/
def insert (name : String) (value : α) : List (String × α) → List (String × α)
  | [] => [(name, value)]
  | (k, v) :: rest =>
    if name = k then (name, value) :: rest
    else if name < k then (name, value) :: (k, v) :: rest
    else (k, v) :: insert name value rest

/-- The names ascend. -/
def Ordered (entries : List (String × α)) : Prop := entries.Pairwise fun a b => a.1 < b.1

theorem mem_insert {name : String} {value : α} {entries : List (String × α)} {e : String × α}
    (h : e ∈ insert name value entries) : e = (name, value) ∨ e ∈ entries := by
  induction entries with
  | nil => simpa [insert] using h
  | cons entry rest ih =>
    obtain ⟨k, v⟩ := entry
    simp only [insert] at h
    split at h
    · rcases List.mem_cons.mp h with h | h
      · exact .inl h
      · exact .inr (List.mem_cons_of_mem _ h)
    · split at h
      · rcases List.mem_cons.mp h with h | h
        · exact .inl h
        · exact .inr h
      · rcases List.mem_cons.mp h with h | h
        · exact .inr (h ▸ List.mem_cons_self)
        · exact (ih h).imp id (List.mem_cons_of_mem _)

theorem ordered_insert {name : String} {value : α} {entries : List (String × α)}
    (h : Ordered entries) : Ordered (insert name value entries) := by
  induction entries with
  | nil => simp [insert, Ordered]
  | cons entry rest ih =>
    obtain ⟨k, v⟩ := entry
    obtain ⟨above, tail⟩ := List.pairwise_cons.mp h
    simp only [insert]
    split
    · rename_i same
      subst same
      exact List.pairwise_cons.mpr ⟨above, tail⟩
    · split
      · rename_i below
        refine List.pairwise_cons.mpr ⟨?_, h⟩
        intro e member
        rcases List.mem_cons.mp member with rfl | member
        · exact below
        · exact String.lt_trans below (above e member)
      · rename_i different notBelow
        refine List.pairwise_cons.mpr ⟨?_, ih tail⟩
        intro e member
        rcases mem_insert member with rfl | member
        · apply Classical.byContradiction
          intro notAbove
          exact different
            (String.le_antisymm (String.not_lt.mp notAbove) (String.not_lt.mp notBelow))
        · exact above e member

def sort (pairs : List (String × α)) : List (String × α) :=
  pairs.foldl (fun sorted pair => insert pair.1 pair.2 sorted) []

theorem ordered_foldl (pairs : List (String × α)) {entries : List (String × α)}
    (h : Ordered entries) :
    Ordered (pairs.foldl (fun sorted pair => insert pair.1 pair.2 sorted) entries) := by
  induction pairs generalizing entries with
  | nil => exact h
  | cons pair rest ih => exact ih (ordered_insert h)

theorem ordered_sort (pairs : List (String × α)) : Ordered (sort pairs) :=
  ordered_foldl pairs List.Pairwise.nil

end Entries

/-- Values by ascending names. -/
structure Dictionary (α : Type) where
  entries : List (String × α)
  ordered : Entries.Ordered entries

namespace Dictionary

variable {α : Type}

def empty : Dictionary α := ⟨[], List.Pairwise.nil⟩

instance : Inhabited (Dictionary α) := ⟨empty⟩

def ofList (pairs : List (String × α)) : Dictionary α :=
  ⟨Entries.sort pairs, Entries.ordered_sort pairs⟩

def isEmpty (d : Dictionary α) : Bool := d.entries.isEmpty

def get? (d : Dictionary α) (name : String) : Option α :=
  (d.entries.find? (·.1 == name)).map (·.2)

def insert (d : Dictionary α) (name : String) (value : α) : Dictionary α :=
  ⟨Entries.insert name value d.entries, Entries.ordered_insert d.ordered⟩

end Dictionary

end ClusterHarness
