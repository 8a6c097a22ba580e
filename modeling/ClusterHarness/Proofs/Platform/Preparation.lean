import ClusterHarness.Proofs.Platform.Namespaces
import ClusterHarness.Proofs.Resource.Namespaces

/-!
# Preparing a namespace

A call for a test namespace reads the namespace, writes at most once, and then only waits for the
service account of pipelines.  What it writes is the namespace that it read with one label set.  A
request that fails before the wait is the last one.
-/

namespace ClusterHarness

variable {σ : Type}

/-! ## The label -/

namespace Namespace

def unlabelled (ns : Namespace) : Namespace := { ns with metadata.labels := none }

/-- The label of Argo CD was set, and nothing else is different from before, in whole seconds. -/
structure Relabelled (before after : Namespace) : Prop where
  managed : after.isManaged = true
  labels : ∀ key, key ≠ Label.managedBy →
    after.metadata.label? key = before.metadata.label? key
  others : after.unlabelled = (shape.trimmed before).unlabelled

theorem label?_managed (ns : Namespace) (key : String) :
    ns.managed.metadata.label? key =
      if Label.managedBy = key then some managedByValue else ns.metadata.label? key := by
  show ((ns.metadata.labels.getD Dictionary.empty).insert _ _).get? key = _
  rw [Dictionary.get?_insert, ObjectMeta.label?]
  cases ns.metadata.labels <;> rfl

theorem relabelled_managed (ns : Namespace) : ns.Relabelled (shape.trimmed ns.managed) where
  managed := by
    show (ns.managed.metadata.label? Label.managedBy == some managedByValue) = true
    rw [label?_managed, if_pos rfl, beq_self_eq_true]
  labels key other := by
    show ns.managed.metadata.label? key = _
    rw [label?_managed, if_neg other.symm]
  others := rfl

/-- If a namespace has whole seconds only, all but its labels is just as before. -/
theorem Relabelled.unlabelled_eq {before after : Namespace} (relabelled : before.Relabelled after)
    (whole : ∀ t ∈ shape.times before, t.nanos = 0) : after.unlabelled = before.unlabelled := by
  rw [relabelled.others, shape.whole before whole]

theorem typed_managed {ns : Namespace} (typed : shape.Typed ns) : shape.Typed ns.managed :=
  ⟨⟨typed.1.creation, typed.1.grace, typed.1.deletion, typed.1.generation, typed.1.managed⟩,
    typed.2⟩

theorem typed_template (name : String) : shape.Typed (template name) :=
  ⟨⟨nofun, nofun, nofun, nofun, nofun⟩, nofun⟩

theorem isManaged_template (name : String) : (template name).isManaged = true := by
  show ((Dictionary.ofList [(Label.managedBy, managedByValue)]).get? Label.managedBy ==
    some managedByValue) = true
  decide

/-- A namespace that is read from what was written to set the label has the label set. -/
theorem relabelled_of_read {document : Json} {before after : Namespace}
    (found : Namespace.codec.read document = some before)
    (reread : Namespace.codec.read (Namespace.codec.write before.managed) = some after) :
    before.Relabelled after := by
  have typed := typed_managed (normal.gives document before found)
  rw [normal.rereads before.managed typed after reread]
  exact relabelled_managed before

theorem eq_template_of_read {name : String} {ns : Namespace}
    (reread : Namespace.codec.read (Namespace.codec.write (template name)) = some ns) :
    ns = template name :=
  normal.rereads _ (typed_template name) ns reread

end Namespace

/-! ## The course of a call -/

def namespaceAddition (name : String) : Except CallError ApiRequest :=
  ApiRequest.create .cluster Namespace.kind (Namespace.codec.write (Namespace.template name))

def namespaceRelabelling (name : String) (ns : Namespace) : Except CallError ApiRequest :=
  ApiRequest.replace .cluster Namespace.kind name (Namespace.codec.write ns.managed)

namespace World

variable {w : World σ} {name : String}

theorem createTestNamespace_of_missing {s t : σ}
    (looked : (w.findNamespace name).run s = (.ok none, t)) :
    (w.createTestNamespace name).run s =
      (do
        let created ← w.addNamespace name
        w.awaitPipelineAccount name
        return created : Session σ Namespace).run t := by
  unfold createTestNamespace
  rw [exceptT_run_bind, looked]

theorem createTestNamespace_of_managed {ns : Namespace} {s t : σ}
    (looked : (w.findNamespace name).run s = (.ok (some ns), t)) (managed : ns.isManaged = true) :
    (w.createTestNamespace name).run s = (.ok ns, t) := by
  unfold createTestNamespace
  rw [exceptT_run_bind, looked]
  dsimp only
  rw [if_pos managed]
  rfl

theorem createTestNamespace_of_unmanaged {ns : Namespace} {s t : σ}
    (looked : (w.findNamespace name).run s = (.ok (some ns), t))
    (unmanaged : ns.isManaged = false) :
    (w.createTestNamespace name).run s =
      (do
        let labelled ← w.relabelNamespace name ns
        w.awaitPipelineAccount name
        return labelled : Session σ Namespace).run t := by
  unfold createTestNamespace
  rw [exceptT_run_bind, looked]
  dsimp only
  rw [if_neg (by simp [unmanaged])]

theorem createTestNamespace_of_error {failure : Error} {s t : σ}
    (looked : (w.findNamespace name).run s = (.error failure, t)) :
    (w.createTestNamespace name).run s = (.error failure, t) := by
  unfold createTestNamespace
  rw [exceptT_run_bind, looked]

/-- The exchanges of a call before the service account is waited for.  The namespace is shown with
its label, or it is absent and is added, or it is shown without its label and is replaced; whatever
fails is the end. -/
inductive Arranged (w : World σ) (name : String) (s : σ) :
    Except Error Namespace → List Exchange → σ → Prop where
  | unasked {cause : CallError} (invalid : namespaceRequest name = .error cause) :
      Arranged w name s (.error (.call (.getNamespace name) cause)) [] s
  | unread {e : Exchange} {t : σ} {cause : CallError}
      (asked : w.Asked s (namespaceRequest name) e t) (fails : e.object Namespace = .error cause)
      (other : ¬ cause.SaysMissing) :
      Arranged w name s (.error (.call (.getNamespace name) cause)) [e] t
  | found {e : Exchange} {t : σ} {ns : Namespace}
      (asked : w.Asked s (namespaceRequest name) e t) (shown : e.object Namespace = .ok ns)
      (managed : ns.isManaged = true) : Arranged w name s (.ok ns) [e] t
  | added {e f : Exchange} {t u : σ} {cause : CallError}
      (asked : w.Asked s (namespaceRequest name) e t) (fails : e.object Namespace = .error cause)
      (missing : cause.SaysMissing) (sent : w.Asked t (namespaceAddition name) f u) :
      Arranged w name s ((f.object Namespace).mapError (.call (.createNamespace name))) [e, f] u
  | replaced {e f : Exchange} {t u : σ} {ns : Namespace}
      (asked : w.Asked s (namespaceRequest name) e t) (shown : e.object Namespace = .ok ns)
      (unmanaged : ns.isManaged = false) (sent : w.Asked t (namespaceRelabelling name ns) f u) :
      Arranged w name s ((f.object Namespace).mapError (.call (.labelNamespace name))) [e, f] u

/-! ### Steps -/

variable {s t u : σ} {e f : Exchange} {cause : CallError} {ns : Namespace}
  {before : List Exchange}

theorem addNamespace_run (sent : w.Asked s (namespaceAddition name) e t) :
    (w.journaled.addNamespace name).run (s, before) =
      ((e.object Namespace).mapError (.call (.createNamespace name)), (t, before ++ [e])) :=
  sent.during_run _ before

theorem relabelNamespace_run (sent : w.Asked s (namespaceRelabelling name ns) e t) :
    (w.journaled.relabelNamespace name ns).run (s, before) =
      ((e.object Namespace).mapError (.call (.labelNamespace name)), (t, before ++ [e])) :=
  sent.during_run _ before

theorem findNamespace_of_shown (asked : w.Asked s (namespaceRequest name) e t)
    (shown : e.object Namespace = .ok ns) :
    (w.journaled.findNamespace name).run (s, before) = (.ok (some ns), (t, before ++ [e])) := by
  refine Session.during_eq_ok.mpr (w.journaled.lookUp_eq_some.mpr ?_)
  rw [← shown]
  exact asked.objectOf_run before

theorem findNamespace_of_missing (asked : w.Asked s (namespaceRequest name) e t)
    (fails : e.object Namespace = .error cause) (missing : cause.SaysMissing) :
    (w.journaled.findNamespace name).run (s, before) = (.ok none, (t, before ++ [e])) := by
  refine Session.during_eq_ok.mpr (w.journaled.lookUp_eq_none.mpr ⟨cause, ?_, missing⟩)
  rw [← fails]
  exact asked.objectOf_run before

theorem findNamespace_of_error {t : σ × List Exchange}
    (failed : (w.journaled.objectOf (α := Namespace) (namespaceRequest name)).run (s, before) =
      (.error cause, t)) (other : ¬ cause.SaysMissing) :
    (w.journaled.findNamespace name).run (s, before) =
      (.error (.call (.getNamespace name) cause), t) :=
  Session.during_eq_error.mpr ⟨cause, (w.journaled.lookUp_run_of_error failed).2 other, rfl⟩

/-- A request that fails before the wait is the last one, and its error is returned. -/
theorem Arranged.run_of_error {failure : Error} {exchanges : List Exchange}
    (arranged : w.Arranged name s (.error failure) exchanges u) :
    (w.journaled.createTestNamespace name).run (s, []) = (.error failure, (u, exchanges)) := by
  generalize ended : (Except.error failure : Except Error Namespace) = outcome at arranged
  cases arranged with
  | @unasked cause invalid =>
      have failed : (w.journaled.objectOf (α := Namespace) (namespaceRequest name)).run (s, []) =
          (.error cause, (s, [])) := by rw [invalid, objectOf_error_run]
      cases ended
      exact createTestNamespace_of_error
        (findNamespace_of_error failed (ApiRequest.not_saysMissing_of_get invalid))
  | unread asked fails other =>
      have failed := asked.objectOf_run (α := Namespace) []
      rw [fails] at failed
      cases ended
      exact createTestNamespace_of_error (findNamespace_of_error failed other)
  | found => cases ended
  | added asked fails missing sent =>
      rw [createTestNamespace_of_missing (findNamespace_of_missing asked fails missing),
        exceptT_run_bind, addNamespace_run sent, ← ended]
      rfl
  | replaced asked shown unmanaged sent =>
      rw [createTestNamespace_of_unmanaged (findNamespace_of_shown asked shown) unmanaged,
        exceptT_run_bind, relabelNamespace_run sent, ← ended]
      rfl

/-- A namespace that is there before the wait is returned unless the wait fails. -/
theorem Arranged.exists_run {exchanges : List Exchange} {v : σ × List Exchange}
    (arranged : w.Arranged name s (.ok ns) exchanges u)
    (awaited : (w.journaled.awaitPipelineAccount name).run (u, exchanges) = (.ok (), v)) :
    ∃ v, (w.journaled.createTestNamespace name).run (s, []) = (.ok ns, v) := by
  generalize ended : (Except.ok ns : Except Error Namespace) = outcome at arranged
  cases arranged with
  | unasked => cases ended
  | unread => cases ended
  | found asked shown managed =>
      cases ended
      exact ⟨_, createTestNamespace_of_managed (findNamespace_of_shown asked shown) managed⟩
  | added asked fails missing sent =>
      refine ⟨v, ?_⟩
      rw [createTestNamespace_of_missing (findNamespace_of_missing asked fails missing),
        exceptT_run_bind, addNamespace_run sent, ← ended]
      exact exceptT_run_bind_eq_ok.mpr ⟨(), v, awaited, rfl⟩
  | replaced asked shown unmanaged sent =>
      refine ⟨v, ?_⟩
      rw [createTestNamespace_of_unmanaged (findNamespace_of_shown asked shown) unmanaged,
        exceptT_run_bind, relabelNamespace_run sent, ← ended]
      exact exceptT_run_bind_eq_ok.mpr ⟨(), v, awaited, rfl⟩

/-- A call that comes to a namespace comes to it before the wait.  Then nothing more happens, or the
service account is waited for. -/
theorem arranged_of_returned {v : σ × List Exchange}
    (returned : (w.journaled.createTestNamespace name).run (s, []) = (.ok ns, v)) :
    ∃ exchanges u, w.Arranged name s (.ok ns) exchanges u ∧
      (v = (u, exchanges) ∨
        (w.journaled.awaitPipelineAccount name).run (u, exchanges) = (.ok (), v)) := by
  unfold createTestNamespace at returned
  obtain ⟨found, first, looked, returned⟩ := exceptT_run_bind_eq_ok.mp returned
  cases found with
  | none =>
      obtain ⟨cause, failed, missing⟩ :=
        w.journaled.lookUp_eq_none.mp (Session.during_eq_ok.mp looked)
      obtain ⟨_, second, added, returned⟩ := exceptT_run_bind_eq_ok.mp returned
      obtain ⟨_, last, awaited, same⟩ := exceptT_run_bind_eq_ok.mp returned
      cases same
      obtain ⟨e, t, asked, fails, rfl⟩ : ∃ e t, w.Asked s (namespaceRequest name) e t ∧
          e.object Namespace = .error cause ∧ first = (t, [] ++ [e]) := by
        rcases w.journaled_objectOf_cases failed with ⟨_, invalid, same, _⟩ | told
        · cases same
          exact absurd missing (ApiRequest.not_saysMissing_of_get invalid)
        · exact told
      obtain ⟨f, u, sent, shown, rfl⟩ := w.asked_of_objectOf (Session.during_eq_ok.mp added)
      have arranged := Arranged.added asked fails missing sent
      rw [shown] at arranged
      exact ⟨_, u, arranged, Or.inr awaited⟩
  | some present =>
      obtain ⟨e, t, asked, shown, rfl⟩ :=
        w.asked_of_objectOf (w.journaled.lookUp_eq_some.mp (Session.during_eq_ok.mp looked))
      cases managed : present.isManaged with
      | true =>
          dsimp only at returned
          rw [if_pos managed] at returned
          cases returned
          exact ⟨_, t, .found asked shown managed, Or.inl rfl⟩
      | false =>
          dsimp only at returned
          rw [if_neg (by simp [managed])] at returned
          obtain ⟨_, second, labelled, returned⟩ := exceptT_run_bind_eq_ok.mp returned
          obtain ⟨_, last, awaited, same⟩ := exceptT_run_bind_eq_ok.mp returned
          cases same
          obtain ⟨f, u, sent, told, rfl⟩ := w.asked_of_objectOf (Session.during_eq_ok.mp labelled)
          have arranged := Arranged.replaced asked shown managed sent
          rw [told] at arranged
          exact ⟨_, u, arranged, Or.inr awaited⟩

end World

end ClusterHarness
