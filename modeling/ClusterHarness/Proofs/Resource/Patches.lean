import ClusterHarness.Proofs.Resource.Objects

/-!
# Merge patches

A merge patch is an object whose members take the place of the members of the same name.  Objects
are merged member by member, null takes a member away, and any other value is put as it is; in
particular a list replaces the whole list that was there.
-/

namespace ClusterHarness

namespace Json

def without (name : String) (members : List (String × Json)) : List (String × Json) :=
  members.filter (·.1 != name)

/-- The members with one of a name in place of those that there were. -/
def put (name : String) (value : Json) (members : List (String × Json)) : List (String × Json) :=
  without name members ++ [(name, value)]

mutual

def merged (target : Json) : Json → Json
  | .obj changes => .obj (mergedMembers (target.members?.getD []) changes)
  | value => value

def mergedMembers (members : List (String × Json)) :
    List (String × Json) → List (String × Json)
  | [] => members
  | (name, .null) :: changes => mergedMembers (without name members) changes
  | (name, change) :: changes =>
      mergedMembers (put name (merged ((lookup members name).getD .null) change) members) changes

end

end Json

variable {σ τ α β : Type}

namespace Parts

theorem valuesOf_put_self (name : String) (value : Json) (members : List (String × Json)) :
    valuesOf name (Json.put name value members) = [value] := by
  have none : valuesOf name (Json.without name members) = [] :=
    valuesOf_of_not_mem fun m member => by simpa using (List.mem_filter.mp member).2
  rw [Json.put, valuesOf_append, none, valuesOf_singleton]
  rfl

theorem valuesOf_put_of_ne {name other : String} (different : other ≠ name) (value : Json)
    (members : List (String × Json)) :
    valuesOf other (Json.put name value members) = valuesOf other members := by
  have kept : valuesOf other (Json.without name members) = valuesOf other members := by
    rw [valuesOf, Json.without, List.filter_filter, valuesOf]
    congr 2
    funext m
    by_cases same : m.1 = other
    · simp [same, different]
    · simp [same]
  have foreign : valuesOf other [(name, value)] = [] :=
    valuesOf_of_not_mem fun m member => by
      cases List.mem_singleton.mp member
      exact different.symm
  rw [Json.put, valuesOf_append, kept, foreign, List.append_nil]

theorem ofMembers_and {parts : Parts σ (α → β)} {part : Parts σ α} {members : List (String × Json)}
    {f : α → β} {a : α} (earlier : parts.ofMembers members = some f)
    (own : part.ofMembers members = some a) : (parts.and part).ofMembers members = some (f a) := by
  simp [Parts.and, earlier, own]

theorem exists_of_ofMembers_and {parts : Parts σ (α → β)} {part : Parts σ α}
    {members : List (String × Json)} {b : β} (read : (parts.and part).ofMembers members = some b) :
    ∃ f a, parts.ofMembers members = some f ∧ part.ofMembers members = some a ∧ f a = b := by
  simpa [Parts.and, Option.bind_eq_some_iff] using read

section Optional

variable {name : String} {c : Codec α} {absent : α} {omitted : α → Bool} {get : σ → α}
  {members : List (String × Json)}

theorem ofMembers_optional_congr {others : List (String × Json)}
    (same : valuesOf name others = valuesOf name members) :
    (optional name c absent omitted get).ofMembers others =
      (optional name c absent omitted get).ofMembers members := by
  simp only [optional, same]

theorem ofMembers_optional {value : Json} (only : valuesOf name members = [value]) :
    (optional name c absent omitted get).ofMembers members = c.read value := by
  simp only [optional, only]

end Optional

end Parts

open Parts

/-- An object whose metadata and status were replaced is read as it was, those two apart. -/
theorem PlatformObject.read_put {spec : Codec σ} {absent : σ} {statuses : Codec τ}
    {members : List (String × Json)} {o : PlatformObject σ τ} {metadata status : Json}
    {m : ObjectMeta} {st : Option τ}
    (read : (codec spec absent statuses).read (.obj members) = some o)
    (described : ObjectMeta.codec.read metadata = some m)
    (reported : statuses.nullable.read status = some st) :
    (codec spec absent statuses).read
        (.obj (Json.put "status" status (Json.put "metadata" metadata members))) =
      some { o with metadata := m, status := st } := by
  have metadataOnly :
      valuesOf "metadata" (Json.put "status" status (Json.put "metadata" metadata members)) =
        [metadata] := by
    rw [valuesOf_put_of_ne (by decide), valuesOf_put_self]
  have kept : ∀ name, name ≠ "status" → name ≠ "metadata" →
      valuesOf name (Json.put "status" status (Json.put "metadata" metadata members)) =
        valuesOf name members := by
    intro name notStatus notMetadata
    rw [valuesOf_put_of_ne notStatus, valuesOf_put_of_ne notMetadata]
  obtain ⟨_, _, toSpec, _, rfl⟩ := exists_of_ofMembers_and read
  obtain ⟨_, _, toMetadata, spec, rfl⟩ := exists_of_ofMembers_and toSpec
  obtain ⟨_, _, toKind, _, rfl⟩ := exists_of_ofMembers_and toMetadata
  obtain ⟨_, _, toVersion, kind, rfl⟩ := exists_of_ofMembers_and toKind
  obtain ⟨_, _, made, version, rfl⟩ := exists_of_ofMembers_and toVersion
  cases made
  refine ofMembers_and (ofMembers_and (ofMembers_and (ofMembers_and (ofMembers_and rfl ?_) ?_)
    ?_) ?_) ?_
  · exact (ofMembers_optional_congr (kept _ (by decide) (by decide))).trans version
  · exact (ofMembers_optional_congr (kept _ (by decide) (by decide))).trans kind
  · exact (ofMembers_optional metadataOnly).trans described
  · exact (ofMembers_optional_congr (kept _ (by decide) (by decide))).trans spec
  · exact (ofMembers_optional (valuesOf_put_self ..)).trans reported

end ClusterHarness
