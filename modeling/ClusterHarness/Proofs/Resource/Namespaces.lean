import ClusterHarness.Proofs.Resource.Objects
import ClusterHarness.Resource.Core

/-!
# The shape of namespaces

An object of the core group is written with its kind and version in front, and is refused when it
says that it is of another one.  Apart from these members it is a record like any other.
-/

namespace ClusterHarness

open Codec Parts Shape

/-! ## Objects of the core group -/

namespace CoreObject

variable {α : Type} {shape : Shape α} {kind : Kind} {parts : Parts α α} {names : List String}
  {made : α → α} {asks : (α → Prop) → Prop}

theorem allAre_cons_self {name text : String} {members : List (String × Json)}
    (others : ∀ m ∈ members, m.1 ≠ name) :
    allAre name text ((name, .str text) :: members) = true := by
  have only : valuesOf name ((name, .str text) :: members) = [.str text] := by
    rw [← List.singleton_append, valuesOf_append, valuesOf_singleton, valuesOf_of_not_mem others,
      List.append_nil]
  rw [allAre, only]
  exact Bool.and_eq_true_iff.mpr ⟨beq_self_eq_true _, rfl⟩

theorem allAre_cons_of_ne {name other text : String} {j : Json} {members : List (String × Json)}
    (different : other ≠ name) :
    allAre name text ((other, j) :: members) = allAre name text members := by
  rw [allAre, ← List.singleton_append, valuesOf_append,
    valuesOf_of_not_mem (List.forall_mem_singleton.mpr different), List.nil_append, allAre]

/-- What is written says that it is of the kind, and is read by its other members. -/
theorem read_written (keep : parts.Keep shape names made asks)
    (distinct : ("apiVersion" :: "kind" :: names).Nodup) (a : α) :
    (codec kind parts).read ((codec kind parts).write a) =
      parts.ofMembers ([("apiVersion", .str kind.apiVersion), ("kind", .str kind.name)]
        ++ parts.toMembers a) := by
  obtain ⟨noVersion, others⟩ := List.nodup_cons.mp distinct
  obtain ⟨noKind, _⟩ := List.nodup_cons.mp others
  have kinds : ∀ m ∈ parts.toMembers a, m.1 ≠ "kind" := fun m member same =>
    noKind (same ▸ keep.named a m member)
  have versions : ∀ m ∈ ("kind", Json.str kind.name) :: parts.toMembers a, m.1 ≠ "apiVersion" := by
    refine List.forall_mem_cons.mpr ⟨show "kind" ≠ "apiVersion" by decide,
      fun m member same => noVersion ?_⟩
    exact List.mem_cons_of_mem _ (same ▸ keep.named a m member)
  refine if_pos ⟨allAre_cons_self versions, ?_⟩
  rw [List.cons_append, allAre_cons_of_ne (by decide)]
  exact allAre_cons_self kinds

/-- The members in front are none of the parts. -/
theorem valuesOf_written (distinct : ("apiVersion" :: "kind" :: names).Nodup)
    {version kindName : Json} {members : List (String × Json)} :
    ∀ name ∈ names, valuesOf name ([("apiVersion", version), ("kind", kindName)] ++ members) =
      valuesOf name members := by
  obtain ⟨noVersion, others⟩ := List.nodup_cons.mp distinct
  obtain ⟨noKind, _⟩ := List.nodup_cons.mp others
  intro name member
  have foreign : valuesOf name [("apiVersion", version), ("kind", kindName)] = [] := by
    refine valuesOf_of_not_mem (List.forall_mem_cons.mpr ⟨?_, List.forall_mem_singleton.mpr ?_⟩)
    · rintro rfl
      exact noVersion (List.mem_cons_of_mem _ member)
    · rintro rfl
      exact noKind member
  rw [valuesOf_append, foreign, List.nil_append]

/-- An object of the core group is normal if its parts are. -/
theorem normal (keep : parts.Keep shape names made asks)
    (distinct : ("apiVersion" :: "kind" :: names).Nodup) (typed : asks shape.Typed)
    (complete : ∀ a, made a = shape.trimmed a) : (codec kind parts).Normal shape where
  gives j a read := by
    cases j with
    | obj members =>
        exact (keep.gives _ typed).ofMembers members a (Option.ite_none_right_eq_some.mp read).2
    | _ => cases read
  restores a typed eras := by
    rw [read_written keep distinct, ← complete]
    exact keep.restores (List.nodup_cons.mp (List.nodup_cons.mp distinct).2).2 a typed eras _
      (valuesOf_written distinct)
  rereads a typed b read := by
    rw [read_written keep distinct] at read
    rw [← complete]
    exact keep.rereads (List.nodup_cons.mp (List.nodup_cons.mp distinct).2).2 a typed _
      (valuesOf_written distinct) b read
  again a := congrArg (fun members => Json.obj (_ ++ members)) (keep.again a)

end CoreObject

/-! ## Namespaces -/

def NamespaceCondition.shape : Shape NamespaceCondition :=
  timestamp.option.through (·.lastTransitionTime)
    (fun c lastTransitionTime => { c with lastTransitionTime }) fun _ => rfl

theorem NamespaceCondition.normal : NamespaceCondition.codec.Normal NamespaceCondition.shape :=
  normal_openRecord (keep_make NamespaceCondition.shape NamespaceCondition.mk
    |>.and (keep_lenient (normal_timestamp.nullable nofun) (through_field fun _ _ => rfl))
    |>.and (keep_lenientText fun _ => rfl)
    |>.and (keep_lenientText fun _ => rfl)
    |>.and (keep_lenientTextOr fun _ => rfl)
    |>.and (keep_lenientTextOr fun _ => rfl))
    (by decide) (fun _ known _ _ _ _ _ _ _ _ => known) fun _ => rfl

def NamespaceStatus.shape : Shape NamespaceStatus :=
  NamespaceCondition.shape.list.option.through (·.conditions)
    (fun s conditions => { s with conditions }) fun _ => rfl

theorem NamespaceStatus.normal : NamespaceStatus.codec.Normal NamespaceStatus.shape :=
  normal_openRecord (keep_make NamespaceStatus.shape NamespaceStatus.mk
    |>.and (keep_lenient (NamespaceCondition.normal.list.nullable nofun)
      (through_field fun _ _ => rfl))
    |>.and (keep_lenientText fun _ => rfl))
    (by decide) (fun _ typed _ _ => typed) fun _ => rfl

theorem NamespaceSpec.normal : NamespaceSpec.codec.Normal .plain :=
  normal_openRecord (keep_make .plain NamespaceSpec.mk
    |>.and (keep_lenient (normal_text.list.nullable nofun)
      ((timeless_bounded _).list.option.field (fun _ _ _ _ _ _ => trivial) fun _ => rfl)))
    (by decide) (fun _ _ => trivial) fun _ => rfl

namespace Namespace

/-- The timestamps of a namespace are in its metadata and in the conditions of its status. -/
def shape : Shape Namespace where
  Typed ns := ObjectMeta.shape.Typed ns.metadata ∧ NamespaceStatus.shape.option.Typed ns.status
  times ns := ObjectMeta.shape.times ns.metadata ++ NamespaceStatus.shape.option.times ns.status
  trimmed ns := { ns with
    metadata := ObjectMeta.shape.trimmed ns.metadata
    status := NamespaceStatus.shape.option.trimmed ns.status }
  whole ns every := by
    obtain ⟨metadata, statuses⟩ := List.forall_mem_append.mp every
    rw [ObjectMeta.shape.whole _ metadata, NamespaceStatus.shape.option.whole _ statuses]

theorem metadata_field : shape.Field ObjectMeta.shape (·.metadata) :=
  ⟨fun _ typed => typed.1, fun _ => List.subset_append_left .., fun _ => rfl⟩

theorem normal : Namespace.codec.Normal shape :=
  CoreObject.normal (keep_make shape Namespace.mk
    |>.and (keep_lenientOr (ObjectMeta.normal.nullable fun _ => nofun) metadata_field
      ObjectMeta.typed_empty)
    |>.and (keep_lenient (NamespaceSpec.normal.nullable nofun) (untouched_option fun _ => rfl))
    |>.and (keep_lenient (NamespaceStatus.normal.nullable nofun)
      ⟨fun _ typed => typed.2, fun _ => List.subset_append_right .., fun _ => rfl⟩))
    (by decide) (fun _ metadata _ _ _ status => ⟨metadata, status⟩) fun _ => rfl

end Namespace

end ClusterHarness
