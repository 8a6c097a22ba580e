import ClusterHarness.Proofs.Json.Sorted
import ClusterHarness.Proofs.Resource.Codecs
import ClusterHarness.Proofs.Time.Printed

/-!
# Values that are read as they were written

Only the fractions of seconds are lost when a value is written.  A shape says of a type which values
it has, which timestamps are in a value, and what is left of a value without those fractions; a
codec is normal for a shape if it reads what it writes as just that, provided the years of the
timestamps have four digits; other years are read or refused, but never taken for something else.
Records are put together from their parts: a part finds the member that it wrote as long as no other
part has the same name.
-/

namespace ClusterHarness

/-- The values that a type has, the timestamps in them, and the values without the fractions of
their seconds. -/
structure Shape (α : Type) where
  Typed : α → Prop
  times : α → List Timestamp
  trimmed : α → α
  /-- Nothing is cut off of whole seconds. -/
  whole : ∀ a, (∀ t ∈ times a, t.nanos = 0) → trimmed a = a

variable {σ α β : Type}

/-- The values changed under their names. -/
def Dictionary.mapValues (f : α → β) (d : Dictionary α) : Dictionary β where
  entries := d.entries.map fun e => (e.1, f e.2)
  ordered := by
    rw [Entries.Ordered, List.pairwise_map]
    exact d.ordered

namespace Shape

def bounded (Typed : α → Prop) : Shape α where
  Typed := Typed
  times _ := []
  trimmed a := a
  whole _ _ := rfl

def plain : Shape α := bounded fun _ => True

def timestamp : Shape Timestamp where
  Typed := Timestamp.Known
  times t := [t]
  trimmed := Timestamp.truncated
  whole t every := by
    have noFraction : t.nanos = 0 := every t List.mem_cons_self
    rw [Timestamp.truncated, ← noFraction]

variable (shape : Shape α)

def option : Shape (Option α) where
  Typed o := ∀ a ∈ o, shape.Typed a
  times o := o.elim [] shape.times
  trimmed o := o.map shape.trimmed
  whole o every := by
    cases o with
    | none => rfl
    | some a => exact congrArg some (shape.whole a every)

def list : Shape (List α) where
  Typed l := ∀ a ∈ l, shape.Typed a
  times l := l.flatMap shape.times
  trimmed l := l.map shape.trimmed
  whole l every := by
    have same : ∀ a ∈ l, shape.trimmed a = a := fun a member =>
      shape.whole a fun t inside => every t (List.mem_flatMap.mpr ⟨a, member, inside⟩)
    rw [List.map_congr_left same, List.map_id']

def dictionary : Shape (Dictionary α) where
  Typed d := ∀ e ∈ d.entries, shape.Typed e.2
  times d := d.entries.flatMap (shape.times ·.2)
  trimmed d := d.mapValues shape.trimmed
  whole d every := by
    have same : ∀ e ∈ d.entries, (e.1, shape.trimmed e.2) = e := fun e member => by
      rw [shape.whole e.2 fun t inside => every t (List.mem_flatMap.mpr ⟨e, member, inside⟩)]
    rw [Dictionary.mk.injEq]
    exact (List.map_congr_left same).trans (List.map_id' _)

/-- A part and nothing else makes the shape of the whole. -/
def through (get : σ → α) (put : σ → α → σ) (same : ∀ s, put s (get s) = s) : Shape σ where
  Typed s := shape.Typed (get s)
  times s := shape.times (get s)
  trimmed s := put s (shape.trimmed (get s))
  whole s every := by rw [shape.whole (get s) every, same]

def int32 : Shape Int := bounded fun n => -2147483648 ≤ n ∧ n ≤ 2147483647

def int64 : Shape Int := bounded fun n => -9223372036854775808 ≤ n ∧ n ≤ 9223372036854775807

end Shape

/-! ## Codecs -/

theorem mapM_map_of_forall {γ : Type} {l : List α} {f : β → Option γ} {g : α → β} {h : α → γ}
    (each : ∀ a ∈ l, f (g a) = some (h a)) : (l.map g).mapM f = some (l.map h) := by
  induction l with
  | nil => rfl
  | cons a rest ih =>
      obtain ⟨first, others⟩ := List.forall_mem_cons.mp each
      rw [List.map_cons, List.mapM_cons, first, ih others]
      rfl

theorem eq_map_of_mapM_map {γ : Type} {l : List α} {f : β → Option γ} {g : α → β} {h : α → γ}
    {made : List γ} (each : ∀ a ∈ l, ∀ c, f (g a) = some c → c = h a)
    (mapped : (l.map g).mapM f = some made) : made = l.map h := by
  induction l generalizing made with
  | nil =>
      cases mapped
      rfl
  | cons a rest ih =>
      obtain ⟨first, others⟩ := List.forall_mem_cons.mp each
      rw [List.map_cons, List.mapM_cons] at mapped
      obtain ⟨c, got, mapped⟩ := Option.bind_eq_some_iff.mp mapped
      obtain ⟨left, gotLeft, same⟩ := Option.bind_eq_some_iff.mp mapped
      cases same
      rw [List.map_cons, first c got, ih others gotLeft]

/-- The codec reads values of the type only, and reads what it wrote without the fractions of
seconds, which it does not write. -/
structure Codec.Normal (c : Codec α) (shape : Shape α) : Prop where
  gives : c.Gives shape.Typed
  restores : ∀ a, shape.Typed a → (∀ t ∈ shape.times a, t.InEra) →
    c.read (c.write a) = some (shape.trimmed a)
  rereads : ∀ a, shape.Typed a → ∀ b, c.read (c.write a) = some b → b = shape.trimmed a
  again : ∀ a, c.write (shape.trimmed a) = c.write a

namespace Codec

/-- Values without timestamps in them are read just as they were written. -/
theorem normal_bounded {c : Codec α} {Typed : α → Prop} (gives : c.Gives Typed)
    (exact_ : ∀ a, Typed a → c.read (c.write a) = some a) : c.Normal (.bounded Typed) where
  gives := gives
  restores a typed _ := exact_ a typed
  rereads a typed _ read := (Option.some.inj ((exact_ a typed).symm.trans read)).symm
  again _ := rfl

/-- No value is written as null. -/
def Solid (c : Codec α) : Prop := ∀ a, c.write a ≠ .null

theorem normal_text : text.Normal .plain := normal_bounded (fun _ _ _ => trivial) fun _ _ => rfl

theorem normal_flag : flag.Normal .plain := normal_bounded (fun _ _ _ => trivial) fun _ _ => rfl

theorem normal_integer (low high : Int) :
    (integer low high).Normal (.bounded fun n => low ≤ n ∧ n ≤ high) := by
  refine normal_bounded (fun j n read => ?_) fun n within => if_pos within
  cases j with
  | int m =>
      obtain ⟨within, same⟩ := Option.ite_none_right_eq_some.mp read
      exact Option.some.inj same ▸ within
  | _ => cases read

theorem normal_int32 : int32.Normal .int32 := normal_integer _ _

theorem normal_int64 : int64.Normal .int64 := normal_integer _ _

theorem normal_any : any.Normal (.bounded Json.InOrder) :=
  normal_bounded (fun j _ read => Option.some.inj read ▸ Json.inOrder_sorted j)
    fun _ ordered => congrArg some ordered

theorem normal_timestamp : timestamp.Normal .timestamp where
  gives := gives_timestamp
  restores t known eras := Timestamp.parse?_text known (eras t List.mem_cons_self)
  rereads t known u read := by
    have written := (Timestamp.parse?_written known).symm.trans read
    exact (Option.some.inj (Option.ite_none_right_eq_some.mp written).2).symm
  again _ := rfl

variable {c : Codec α} {shape : Shape α}

theorem nullable_read (j : Json) :
    c.nullable.read j = if j.isNull then some none else (c.read j).map some := by
  cases j <;> rfl

theorem nullable_read_write (solid : c.Solid) (a : α) :
    c.nullable.read (c.write a) = (c.read (c.write a)).map some := by
  have written := solid a
  rw [nullable_read]
  cases same : c.write a with
  | null => exact absurd same written
  | _ => rfl

theorem gives_nullable (gives : c.Gives shape.Typed) : c.nullable.Gives shape.option.Typed := by
  intro j o read a member
  rw [nullable_read] at read
  split at read
  · cases read
    cases member
  · obtain ⟨b, got, same⟩ := Option.map_eq_some_iff.mp read
    cases same
    cases member
    exact gives j a got

theorem Normal.nullable (normal : c.Normal shape) (solid : c.Solid) :
    c.nullable.Normal shape.option where
  gives := gives_nullable normal.gives
  restores o typed eras := by
    cases o with
    | none => rfl
    | some a =>
        show c.nullable.read (c.write a) = _
        rw [nullable_read_write solid, normal.restores a (typed a rfl) eras]
        rfl
  rereads o typed b read := by
    cases o with
    | none =>
        cases read
        rfl
    | some a =>
        have read : c.nullable.read (c.write a) = some b := read
        rw [nullable_read_write solid] at read
        obtain ⟨again, got, same⟩ := Option.map_eq_some_iff.mp read
        rw [← same, normal.rereads a (typed a rfl) again got]
        rfl
  again o := by
    cases o with
    | none => rfl
    | some a => exact normal.again a

/-- Null stands for a missing value, so it is none of those that may be missing. -/
theorem nullable_any_read_write {o : Option Json} (typed : ∀ j ∈ o, j.InOrder ∧ j ≠ .null) :
    any.nullable.read (any.nullable.write o) = some o := by
  cases o with
  | none => rfl
  | some j =>
      obtain ⟨ordered, some⟩ := typed j rfl
      have read : any.nullable.read j = .some (.some j.sorted) := by
        cases j with
        | null => exact absurd rfl some
        | _ => rfl
      exact read.trans (congrArg (fun k => Option.some (Option.some k)) ordered)

theorem normal_nullable_any :
    any.nullable.Normal (Shape.bounded fun j => j.InOrder ∧ j ≠ .null).option where
  gives j o read k member := by
    rw [nullable_read] at read
    cases j with
    | null =>
        cases read
        cases member
    | _ =>
        cases read
        cases member
        exact ⟨Json.inOrder_sorted _, nofun⟩
  restores o typed _ := by
    rw [nullable_any_read_write typed]
    cases o <;> rfl
  rereads o typed b read := by
    cases (nullable_any_read_write typed).symm.trans read
    cases o <;> rfl
  again o := by
    cases o <;> rfl

theorem Normal.list (normal : c.Normal shape) : c.list.Normal shape.list where
  gives := gives_list normal.gives
  restores l typed eras := mapM_map_of_forall fun a member =>
    normal.restores a (typed a member) fun t inside =>
      eras t (List.mem_flatMap.mpr ⟨a, member, inside⟩)
  rereads _ typed _ read :=
    eq_map_of_mapM_map (fun a member => normal.rereads a (typed a member)) read
  again l := by
    show Json.arr ((l.map shape.trimmed).map c.write) = Json.arr (l.map c.write)
    rw [List.map_map]
    exact congrArg Json.arr (List.map_congr_left fun a _ => normal.again a)

theorem Normal.dictionary (normal : c.Normal shape) : c.dictionary.Normal shape.dictionary where
  gives j d read := by
    cases j with
    | obj members =>
        obtain ⟨pairs, each, same⟩ := Option.map_eq_some_iff.mp read
        cases same
        intro e sorted
        obtain ⟨m, _, made⟩ := exists_of_mem_mapM each (Entries.mem_of_mem_sort sorted)
        obtain ⟨a, got, same⟩ := Option.map_eq_some_iff.mp made
        cases same
        exact normal.gives m.2 a got
    | _ => cases read
  restores d typed eras := by
    have each : (d.entries.map fun e => (e.1, c.write e.2)).mapM
        (fun m : String × Json => (c.read m.2).map fun a => (m.1, a)) =
          some (d.mapValues shape.trimmed).entries := mapM_map_of_forall fun e member => by
      have read := normal.restores e.2 (typed e member) fun t inside =>
        eras t (List.mem_flatMap.mpr ⟨e, member, inside⟩)
      exact congrArg (Option.map (Prod.mk e.1)) read
    exact (congrArg (Option.map Dictionary.ofList) each).trans
      (congrArg some (Dictionary.ofList_entries _))
  rereads d typed b read := by
    obtain ⟨pairs, each, same⟩ := Option.map_eq_some_iff.mp read
    have entries : pairs = (d.mapValues shape.trimmed).entries :=
      eq_map_of_mapM_map (fun e member p paired => by
        obtain ⟨a, got, rfl⟩ := Option.map_eq_some_iff.mp paired
        rw [normal.rereads e.2 (typed e member) a got]) each
    rw [← same, entries, Dictionary.ofList_entries]
    rfl
  again d := by
    show Json.obj ((d.entries.map _).map _) = _
    rw [List.map_map]
    refine congrArg Json.obj (List.map_congr_left fun e _ => ?_)
    exact congrArg (Prod.mk e.1) (normal.again e.2)

end Codec

/-! ## Records -/

/-- A value of a shape is a part of one of another shape. -/
structure Shape.Field (whole : Shape σ) (shape : Shape α) (get : σ → α) : Prop where
  typed : ∀ s, whole.Typed s → shape.Typed (get s)
  times : ∀ s, shape.times (get s) ⊆ whole.times s
  trimmed : ∀ s, get (whole.trimmed s) = shape.trimmed (get s)

/-- A part is read as it was written into the whole. -/
theorem Shape.Field.restores {whole : Shape σ} {shape : Shape α} {get : σ → α} {c : Codec α}
    (field : whole.Field shape get) (normal : c.Normal shape) {s : σ} (typed : whole.Typed s)
    (eras : ∀ t ∈ whole.times s, t.InEra) :
    c.read (c.write (get s)) = some (get (whole.trimmed s)) := by
  rw [field.trimmed, normal.restores _ (field.typed s typed) fun t inside =>
    eras t (field.times s inside)]

theorem Shape.Field.rereads {whole : Shape σ} {shape : Shape α} {get : σ → α} {c : Codec α}
    (field : whole.Field shape get) (normal : c.Normal shape) {s : σ} (typed : whole.Typed s)
    {a : α} (read : c.read (c.write (get s)) = some a) : a = get (whole.trimmed s) := by
  rw [field.trimmed, normal.rereads _ (field.typed s typed) a read]

namespace Shape

/-- There are no timestamps in the values. -/
structure Timeless (shape : Shape α) : Prop where
  times : ∀ a, shape.times a = []
  trimmed : ∀ a, shape.trimmed a = a

theorem timeless_bounded (Typed : α → Prop) : (bounded Typed).Timeless :=
  ⟨fun _ => rfl, fun _ => rfl⟩

variable {shape : Shape α}

theorem Timeless.option (timeless : shape.Timeless) : shape.option.Timeless where
  times o := by
    cases o with
    | none => rfl
    | some a => exact timeless.times a
  trimmed o := shape.option.whole o fun t inside => by
    cases o with
    | none => cases inside
    | some a => exact nomatch timeless.times a ▸ inside

theorem Timeless.list (timeless : shape.Timeless) : shape.list.Timeless where
  times _ := List.flatMap_eq_nil_iff.mpr fun a _ => timeless.times a
  trimmed _ := (List.map_congr_left fun a _ => timeless.trimmed a).trans (List.map_id' _)

theorem Timeless.dictionary (timeless : shape.Timeless) : shape.dictionary.Timeless where
  times _ := List.flatMap_eq_nil_iff.mpr fun e _ => timeless.times e.2
  trimmed d := shape.dictionary.whole d fun t inside => by
    obtain ⟨e, _, inside⟩ := List.mem_flatMap.mp inside
    exact nomatch timeless.times e.2 ▸ inside

theorem through_field {get : σ → α} {put : σ → α → σ} {same : ∀ s, put s (get s) = s}
    (got : ∀ s a, get (put s a) = a) : (shape.through get put same).Field shape get :=
  ⟨fun _ typed => typed, fun _ => List.Subset.refl _, fun s => got s _⟩

/-- A part without timestamps in it. -/
theorem Timeless.field {whole : Shape σ} {get : σ → α} (timeless : shape.Timeless)
    (typed : ∀ s, whole.Typed s → shape.Typed (get s))
    (same : ∀ s, get (whole.trimmed s) = get s) : whole.Field shape get where
  typed := typed
  times s := (timeless.times (get s)).symm ▸ List.nil_subset _
  trimmed s := (same s).trans (timeless.trimmed (get s)).symm

theorem untouched {whole : Shape σ} {get : σ → α} (same : ∀ s, get (whole.trimmed s) = get s) :
    whole.Field .plain get :=
  (timeless_bounded _).field (fun _ _ => trivial) same

theorem untouched_option {whole : Shape σ} {get : σ → Option α}
    (same : ∀ s, get (whole.trimmed s) = get s) : whole.Field plain.option get :=
  (timeless_bounded _).option.field (fun _ _ _ _ => trivial) same

theorem untouched_list {whole : Shape σ} {get : σ → List α}
    (same : ∀ s, get (whole.trimmed s) = get s) : whole.Field plain.list get :=
  (timeless_bounded _).list.field (fun _ _ _ _ => trivial) same

end Shape

namespace Parts

theorem valuesOf_append (name : String) (before after : List (String × Json)) :
    valuesOf name (before ++ after) = valuesOf name before ++ valuesOf name after := by
  simp only [valuesOf, List.filter_append, List.map_append]

theorem valuesOf_of_not_mem {name : String} {members : List (String × Json)}
    (absent : ∀ m ∈ members, m.1 ≠ name) : valuesOf name members = [] := by
  have none : members.filter (·.1 == name) = [] :=
    List.filter_eq_nil_iff.mpr fun m member => by simpa using absent m member
  rw [valuesOf, none, List.map_nil]

theorem valuesOf_singleton (name : String) (j : Json) : valuesOf name [(name, j)] = [j] := by
  simp [valuesOf]

theorem exists_of_mapM_singleton {f : α → Option β} {a : α} {made : List β}
    (mapped : [a].mapM f = some made) : ∃ b, made = [b] ∧ f a = some b := by
  rw [List.mapM_cons] at mapped
  obtain ⟨b, got, same⟩ := Option.bind_eq_some_iff.mp mapped
  cases same
  exact ⟨b, rfl, got⟩

/-- The parts write members of their names only, and read them wherever they are, without the
fractions of seconds, if all the names are different.  For a property of what they read it is enough
to have what is asked of the values that they are put together from. -/
structure Keep (parts : Parts σ α) (shape : Shape σ) (names : List String) (made : σ → α)
    (asks : (α → Prop) → Prop) : Prop where
  named : ∀ s, ∀ m ∈ parts.toMembers s, m.1 ∈ names
  restores : names.Nodup → ∀ s, shape.Typed s → (∀ t ∈ shape.times s, t.InEra) → ∀ members,
    (∀ name ∈ names, valuesOf name members = valuesOf name (parts.toMembers s)) →
      parts.ofMembers members = some (made s)
  rereads : names.Nodup → ∀ s, shape.Typed s → ∀ members,
    (∀ name ∈ names, valuesOf name members = valuesOf name (parts.toMembers s)) →
      ∀ a, parts.ofMembers members = some a → a = made s
  again : ∀ s, parts.toMembers (shape.trimmed s) = parts.toMembers s
  gives : ∀ R, asks R → parts.Give R

variable {shape : Shape σ} {names : List String} {name : String}

theorem keep_make (shape : Shape σ) (a : α) :
    (make a : Parts σ α).Keep shape [] (fun _ => a) (fun R => R a) :=
  ⟨nofun, fun _ _ _ _ _ _ => rfl, fun _ _ _ _ _ _ same => (Option.some.inj same).symm,
    fun _ => rfl, fun _ holds => give_make holds⟩

/-- The members of different names do not get into each other's way. -/
theorem valuesOf_and {parts : Parts σ (α → β)} {part : Parts σ α} {s : σ}
    {members : List (String × Json)} (fresh : name ∉ names)
    (named : ∀ m ∈ parts.toMembers s, m.1 ∈ names) (own : ∀ m ∈ part.toMembers s, m.1 ∈ [name])
    (same : ∀ other ∈ name :: names,
      valuesOf other members = valuesOf other ((parts.and part).toMembers s)) :
    (∀ other ∈ names, valuesOf other members = valuesOf other (parts.toMembers s)) ∧
      ∀ other ∈ [name], valuesOf other members = valuesOf other (part.toMembers s) := by
  constructor
  · intro other member
    have foreign : valuesOf other (part.toMembers s) = [] :=
      valuesOf_of_not_mem fun m inside equal =>
        fresh (List.mem_singleton.mp (own m inside) ▸ equal ▸ member)
    have both := same other (List.mem_cons_of_mem _ member)
    rwa [Parts.and, valuesOf_append, foreign, List.append_nil] at both
  · intro other member
    cases List.mem_singleton.mp member
    have foreign : valuesOf name (parts.toMembers s) = [] :=
      valuesOf_of_not_mem fun m before equal => fresh (equal ▸ named m before)
    have both := same name List.mem_cons_self
    rwa [Parts.and, valuesOf_append, foreign, List.nil_append] at both

/-- One more part. -/
theorem Keep.and {parts : Parts σ (α → β)} {part : Parts σ α} {made : σ → α → β} {get : σ → α}
    {asks : ((α → β) → Prop) → Prop} {asksOwn : (α → Prop) → Prop}
    (keep : parts.Keep shape names made asks) (keeps : part.Keep shape [name] get asksOwn) :
    (parts.and part).Keep shape (name :: names) (fun s => made s (get s))
      (fun R => asks fun f => asksOwn fun a => R (f a)) where
  named s m member := by
    rcases List.mem_append.mp member with earlier | own
    · exact List.mem_cons_of_mem _ (keep.named s m earlier)
    · exact List.mem_cons.mpr (Or.inl (List.mem_singleton.mp (keeps.named s m own)))
  restores distinct s typed eras members same := by
    obtain ⟨fresh, others⟩ := List.nodup_cons.mp distinct
    obtain ⟨earlier, own⟩ := valuesOf_and fresh (keep.named s) (keeps.named s) same
    show (parts.ofMembers members).bind (fun f => (part.ofMembers members).bind _) = _
    rw [keep.restores others s typed eras members earlier,
      keeps.restores (by simp) s typed eras members own]
    rfl
  rereads distinct s typed members same b read := by
    obtain ⟨fresh, others⟩ := List.nodup_cons.mp distinct
    obtain ⟨earlier, own⟩ := valuesOf_and fresh (keep.named s) (keeps.named s) same
    obtain ⟨f, gotF, read⟩ := Option.bind_eq_some_iff.mp read
    obtain ⟨a, gotA, same⟩ := Option.bind_eq_some_iff.mp read
    cases same
    rw [keep.rereads others s typed members earlier f gotF,
      keeps.rereads (by simp) s typed members own a gotA]
  again s := by
    show parts.toMembers _ ++ part.toMembers _ = _
    rw [keep.again, keeps.again]
    rfl
  gives R holds := by
    have before := keep.gives _ holds
    constructor
    · intro members b read
      obtain ⟨f, gotF, read⟩ := Option.bind_eq_some_iff.mp read
      obtain ⟨a, gotA, same⟩ := Option.bind_eq_some_iff.mp read
      cases same
      exact (keeps.gives _ (before.ofMembers members f gotF)).ofMembers members a gotA
    · intro items b left read
      obtain ⟨⟨f, others⟩, gotF, read⟩ := Option.bind_eq_some_iff.mp read
      obtain ⟨⟨a, left⟩, gotA, same⟩ := Option.bind_eq_some_iff.mp read
      cases same
      exact (keeps.gives _ (before.ofItems items f others gotF)).ofItems others a _ gotA

variable {c : Codec α} {q : Shape α} {get : σ → α} {get? : σ → Option α}

theorem keep_required (normal : c.Normal q) (field : shape.Field q get) :
    (required name c get).Keep shape [name] (fun s => get (shape.trimmed s))
      (fun R => ∀ a, q.Typed a → R a) where
  named _ _ member := List.mem_singleton.mpr (congrArg Prod.fst (List.mem_singleton.mp member))
  restores _ s typed eras members same := by
    have only : valuesOf name members = [c.write (get s)] :=
      (same name List.mem_cons_self).trans (valuesOf_singleton name _)
    have read := field.restores normal typed eras
    dsimp only [required]
    rw [only]
    exact read
  rereads _ s typed members same a read := by
    have only : valuesOf name members = [c.write (get s)] :=
      (same name List.mem_cons_self).trans (valuesOf_singleton name _)
    dsimp only [required] at read
    rw [only] at read
    exact field.rereads normal typed read
  again s := by
    show [(name, c.write (get (shape.trimmed s)))] = _
    rw [field.trimmed, normal.again]
    rfl
  gives _ holds := give_required fun j a read => holds a (normal.gives j a read)

/-- What is left out when it is written is what an absent member stands for. -/
theorem keep_optional (normal : c.Normal q) (field : shape.Field q get) {absent : α}
    {omitted : α → Bool} (omits : ∀ a, omitted a = true → q.trimmed a = absent)
    (alike : ∀ a, omitted (q.trimmed a) = omitted a) (typed : q.Typed absent) :
    (optional name c absent omitted get).Keep shape [name] (fun s => get (shape.trimmed s))
      (fun R => ∀ a, q.Typed a → R a) where
  named s m member := by
    dsimp only [optional] at member
    split at member
    · cases member
    · exact List.mem_singleton.mpr (congrArg Prod.fst (List.mem_singleton.mp member))
  restores _ s typed eras members same := by
    have only := same name List.mem_cons_self
    have read := field.restores normal typed eras
    dsimp only [optional] at only ⊢
    by_cases out : omitted (get s) = true
    · rw [if_pos out] at only
      rw [only, field.trimmed, omits (get s) out]
      rfl
    · rw [if_neg out, valuesOf_singleton] at only
      rw [only]
      exact read
  rereads _ s typed members same a read := by
    have only := same name List.mem_cons_self
    dsimp only [optional] at only read
    by_cases out : omitted (get s) = true
    · rw [if_pos out] at only
      rw [only] at read
      rw [field.trimmed, omits (get s) out]
      exact (Option.some.inj read).symm
    · rw [if_neg out, valuesOf_singleton] at only
      rw [only] at read
      exact field.rereads normal typed read
  again s := by
    dsimp only [optional]
    rw [field.trimmed, alike, normal.again]
  gives _ holds := give_optional (fun j a read => holds a (normal.gives j a read))
    (holds absent typed)

theorem keep_defaulted (normal : c.Normal q) (field : shape.Field q get) {absent : α}
    (typed : q.Typed absent) :
    (defaulted name c absent get).Keep shape [name] (fun s => get (shape.trimmed s))
      (fun R => ∀ a, q.Typed a → R a) :=
  keep_optional normal field (fun _ never => nomatch never) (fun _ => rfl) typed

theorem keep_text {get : σ → String} (same : ∀ s, get (shape.trimmed s) = get s) :
    (required name Codec.text get).Keep shape [name] (fun s => get (shape.trimmed s))
      (fun R => ∀ a, True → R a) :=
  keep_required Codec.normal_text (Shape.untouched same)

theorem keep_list (normal : c.Normal q) {get : σ → List α} (field : shape.Field q.list get) :
    (defaulted name c.list [] get).Keep shape [name] (fun s => get (shape.trimmed s))
      (fun R => ∀ l, q.list.Typed l → R l) :=
  keep_defaulted normal.list field nofun

theorem keep_plainList (normal : c.Normal .plain) {get : σ → List α}
    (same : ∀ s, get (shape.trimmed s) = get s) :
    (defaulted name c.list [] get).Keep shape [name] (fun s => get (shape.trimmed s))
      (fun R => ∀ l, Shape.plain.list.Typed l → R l) :=
  keep_list normal (Shape.untouched_list same)

/-- A list that is left out when empty. -/
theorem keep_listOrEmpty (normal : c.Normal q) {get : σ → List α}
    (field : shape.Field q.list get) :
    (optional name c.list [] List.isEmpty get).Keep shape [name]
      (fun s => get (shape.trimmed s)) (fun R => ∀ l, q.list.Typed l → R l) :=
  keep_optional normal.list field (fun l empty => by rw [List.isEmpty_iff.mp empty]; rfl)
    (fun l => List.isEmpty_map) nofun

/-- A dictionary that is left out when empty. -/
theorem keep_dictionaryOrEmpty (normal : c.Normal q) {get : σ → Dictionary α}
    (field : shape.Field q.dictionary get) :
    (optional name c.dictionary Dictionary.empty Dictionary.isEmpty get).Keep shape [name]
      (fun s => get (shape.trimmed s)) (fun R => ∀ d, q.dictionary.Typed d → R d) :=
  keep_optional normal.dictionary field
    (fun d empty => by
      obtain ⟨entries, ordered⟩ := d
      cases List.isEmpty_iff.mp empty
      rfl)
    (fun _ => List.isEmpty_map) nofun

theorem keep_textOrEmpty {get : σ → String} (same : ∀ s, get (shape.trimmed s) = get s) :
    (textOrEmpty name get).Keep shape [name] (fun s => get (shape.trimmed s))
      (fun R => ∀ a, True → R a) :=
  keep_optional Codec.normal_text (Shape.untouched same) (fun _ empty => beq_iff_eq.mp empty)
    (fun _ => rfl) trivial

theorem keep_maybe (normal : c.nullable.Normal q.option) (field : shape.Field q.option get?) :
    (maybe name c get?).Keep shape [name] (fun s => get? (shape.trimmed s))
      (fun R => ∀ o, q.option.Typed o → R o) :=
  keep_optional normal field
    (fun o none => by rw [Option.isNone_iff_eq_none.mp none]; rfl) (fun _ => Option.isNone_map)
    nofun

theorem keep_lenient (normal : c.nullable.Normal q.option) (field : shape.Field q.option get?) :
    (lenient name c get?).Keep shape [name] (fun s => get? (shape.trimmed s))
      (fun R => ∀ o, q.option.Typed o → R o) where
  named s m member := by
    obtain ⟨a, _, same⟩ := Option.map_eq_some_iff.mp (Option.mem_toList.mp member)
    exact List.mem_singleton.mpr (congrArg Prod.fst same.symm)
  restores _ s typed eras members same := by
    have only := same name List.mem_cons_self
    have read := field.restores normal typed eras
    dsimp only [lenient] at only ⊢
    cases got : get? s with
    | none =>
        rw [got] at only read
        have none : get? (shape.trimmed s) = none := (Option.some.inj read).symm
        rw [only, none]
        rfl
    | some a =>
        rw [got] at only read
        have read : c.nullable.read (c.write a) = some (get? (shape.trimmed s)) := read
        rw [only, Option.map_some, Option.toList_some, valuesOf_singleton, List.mapM_cons, read]
        rfl
  rereads _ s typed members same o read := by
    have only := same name List.mem_cons_self
    have reread := fun o => field.rereads normal typed (a := o)
    dsimp only [lenient] at only read
    cases got : get? s with
    | none =>
        rw [got] at only reread
        rw [only] at read
        cases read
        exact reread none rfl
    | some a =>
        rw [got] at only reread
        rw [only, Option.map_some, Option.toList_some, valuesOf_singleton] at read
        obtain ⟨values, each, same⟩ := Option.map_eq_some_iff.mp read
        obtain ⟨b, rfl, readB⟩ := exists_of_mapM_singleton each
        cases same
        exact reread b readB
  again s := by
    dsimp only [lenient]
    rw [field.trimmed]
    cases get? s with
    | none => rfl
    | some a => exact congrArg (fun j => [(name, j)]) (normal.again (some a))
  gives _ holds := give_lenient (fun j o read => holds o (normal.gives j o read)) (holds none nofun)

theorem keep_lenientOr (normal : c.nullable.Normal q.option) (field : shape.Field q get)
    {absent : α} (typed : q.Typed absent) :
    (lenientOr name c absent get).Keep shape [name] (fun s => get (shape.trimmed s))
      (fun R => ∀ a, q.Typed a → R a) where
  named _ _ member := List.mem_singleton.mpr (congrArg Prod.fst (List.mem_singleton.mp member))
  restores _ s typed eras members same := by
    have only : valuesOf name members = [c.write (get s)] :=
      (same name List.mem_cons_self).trans (valuesOf_singleton name _)
    have read : c.nullable.read (c.write (get s)) = some (some (q.trimmed (get s))) :=
      normal.restores (some (get s))
        (fun _ same => Option.mem_some.mp same ▸ field.typed s typed)
        fun t inside => eras t (field.times s inside)
    dsimp only [lenientOr]
    rw [only, List.mapM_cons, read, field.trimmed]
    rfl
  rereads _ s typed members same a read := by
    have only : valuesOf name members = [c.write (get s)] :=
      (same name List.mem_cons_self).trans (valuesOf_singleton name _)
    dsimp only [lenientOr] at read
    rw [only] at read
    obtain ⟨values, each, same⟩ := Option.map_eq_some_iff.mp read
    obtain ⟨o, rfl, readO⟩ := exists_of_mapM_singleton each
    have known : q.option.Typed (some (get s)) := fun _ same =>
      Option.mem_some.mp same ▸ field.typed s typed
    have whole := normal.rereads (some (get s)) known o readO
    rw [← same, whole, field.trimmed]
    rfl
  again s := by
    show [(name, c.write (get (shape.trimmed s)))] = _
    rw [field.trimmed]
    exact congrArg (fun j => [(name, j)]) (normal.again (some (get s)))
  gives _ holds := give_lenientOr
    (fun j o read a member => holds a (normal.gives j o read a member)) (holds absent typed)

theorem keep_lenientText {get : σ → Option String} (same : ∀ s, get (shape.trimmed s) = get s) :
    (lenient name Codec.text get).Keep shape [name] (fun s => get (shape.trimmed s))
      (fun R => ∀ o, Shape.plain.option.Typed o → R o) :=
  keep_lenient (Codec.normal_text.nullable nofun) (Shape.untouched_option same)

theorem keep_lenientTextOr {get : σ → String} {absent : String}
    (same : ∀ s, get (shape.trimmed s) = get s) :
    (lenientOr name Codec.text absent get).Keep shape [name] (fun s => get (shape.trimmed s))
      (fun R => ∀ a, True → R a) :=
  keep_lenientOr (Codec.normal_text.nullable nofun) (Shape.untouched same) trivial

end Parts

namespace Codec

variable {shape : Shape α} {parts : Parts α α} {names : List String} {made : α → α}
  {asks : (α → Prop) → Prop}

/-- A record is normal if its parts are. -/
theorem normal_record (keep : parts.Keep shape names made asks) (distinct : names.Nodup)
    (typed : asks shape.Typed) (complete : ∀ a, made a = shape.trimmed a) :
    (record parts).Normal shape where
  gives := gives_record (keep.gives _ typed)
  restores a typed eras :=
    (keep.restores distinct a typed eras _ fun _ _ => rfl).trans (congrArg some (complete a))
  rereads a typed b read :=
    (keep.rereads distinct a typed _ (fun _ _ => rfl) b read).trans (complete a)
  again a := congrArg Json.obj (keep.again a)

theorem normal_openRecord (keep : parts.Keep shape names made asks) (distinct : names.Nodup)
    (typed : asks shape.Typed) (complete : ∀ a, made a = shape.trimmed a) :
    (openRecord parts).Normal shape where
  gives := gives_openRecord (keep.gives _ typed)
  restores a typed eras :=
    (keep.restores distinct a typed eras _ fun _ _ => rfl).trans (congrArg some (complete a))
  rereads a typed b read :=
    (keep.rereads distinct a typed _ (fun _ _ => rfl) b read).trans (complete a)
  again a := congrArg Json.obj (keep.again a)

/-- A record of plain parts. -/
theorem normal_plainRecord (keep : parts.Keep .plain names made asks) (distinct : names.Nodup)
    (complete : ∀ a, made a = a) : (record parts).Normal .plain where
  gives _ _ _ := trivial
  restores a typed eras :=
    (keep.restores distinct a typed eras _ fun _ _ => rfl).trans (congrArg some (complete a))
  rereads a typed b read :=
    (keep.rereads distinct a typed _ (fun _ _ => rfl) b read).trans (complete a)
  again _ := rfl

end Codec

end ClusterHarness
