import ClusterHarness.Bundle.Patch
import ClusterHarness.Proofs.Cluster.Inquiries
import ClusterHarness.Proofs.Host.Deeds
import ClusterHarness.Proofs.Text.Base64
import ClusterHarness.Proofs.Text.Pieces
import ClusterHarness.Rehearsal.Host

/-!
# Credentials that pass through unchanged

The credentials of a registry are given in base64.  A secret is made of them and posted, and they
are written to a file.  Either is done exactly if the text is in base64 without the blanks around
it: the posted secret has the same text again, and the file has the bytes that it spells.
-/

namespace ClusterHarness

variable {σ α : Type}

open Errand

/-! ## Secrets -/

/-- A secret is posted; its registry configuration is some text, as it is sent. -/
def ApiRequest.PostsConfiguration (request : ApiRequest) (text : List Char) : Prop :=
  request.method = "POST" ∧ ∃ body data, request.body = some body ∧
    body.get? "data" = some data ∧ data.get? ".dockerconfigjson" = some (.str (String.ofList text))

def created [HasKind α] (ns : String) (answer : Except CallError String) : Except Error α :=
  (answer.bind (parsed HasKind.codec)).mapError (.call (.create (World.kindOf α).name ns))

theorem World.yields_create [HasKind α] (w : World σ) (ns : String) (object : α) :
    Yields (w.journaled.create ns object)
      (Inquired (ApiRequest.create (.namespaced ns) (kindOf α) (HasKind.codec.write object))
        (created ns)) := by
  refine w.yields_inquiry fun s => ?_
  unfold create Session.during created
  rw [ExceptT.run_mk, stateM_bind_apply, objectOf_run_textOf]
  rfl

/-- What it comes to that a secret is to be made of credentials: the text is refused, or the secret
is posted, unless the namespace has no path. -/
inductive SecretMade (ns : String) (text : List Char) :
    Except Error Secret → List Exchange → Prop where
  | refused (junk : ¬Base64.Canonical text) :
      SecretMade ns text (.error (.decode "registry auth")) []
  | unsent (good : Base64.Canonical text)
      (invalid : Target.make (Secret.kind.path ns) [] = none) :
      SecretMade ns text (.error (.call (.create "Secret" ns) .invalidPath)) []
  | posted {e : Exchange} (good : Base64.Canonical text)
      (made : Target.make (Secret.kind.path ns) [] = some e.request.target)
      (posts : e.request.PostsConfiguration text) :
      SecretMade ns text (created ns e.reply.text) [e]

theorem SecretMade.isEmpty_iff {ns : String} {text : List Char} {result : Except Error Secret}
    {exchanges : List Exchange} (made : SecretMade ns text result exchanges)
    (plain : ns.toList.all Target.pathChar = true) :
    exchanges ≠ [] ↔ Base64.Canonical text := by
  have path : (Secret.kind.path ns).toList.all Target.pathChar = true := by
    unfold Kind.path
    simp only [String.toList_append, List.all_append, plain]
    decide
  cases made with
  | refused junk => exact ⟨fun some => absurd rfl some, fun good => absurd good junk⟩
  | unsent good invalid => cases (Target.make_of_pathChar path []).symm.trans invalid
  | posted good => exact ⟨fun _ => good, fun _ => List.cons_ne_nil _ _⟩

theorem registrySecret_of_not_canonical {ns name encoded : String}
    (junk : ¬Base64.Canonical (Text.trim encoded.toList)) :
    registrySecret ns name encoded = .error (.decode "registry auth") := by
  unfold registrySecret
  rw [Base64.decode_eq_none_iff.mpr junk]

/-- The secret is written with the text that it was made of. -/
theorem registrySecret_of_canonical {encoded : String} (ns name : String)
    (good : Base64.Canonical (Text.trim encoded.toList)) :
    ∃ secret data, registrySecret ns name encoded = .ok secret ∧
      (Secret.codec.write secret).get? "data" = some data ∧
      data.get? ".dockerconfigjson" = some (.str (String.ofList (Text.trim encoded.toList))) := by
  obtain ⟨bytes, writes⟩ := good
  unfold registrySecret
  rw [Base64.decode_eq_some_iff.mpr writes, ← Base64.writes_iff.mp writes]
  exact ⟨_, _, rfl, rfl, rfl⟩

theorem World.yields_createRegistryAuthSecret (w : World σ) (ns name encoded : String) :
    Yields (w.journaled.createRegistryAuthSecret ns name encoded)
      (SecretMade ns (Text.trim encoded.toList)) := by
  unfold createRegistryAuthSecret
  by_cases good : Base64.Canonical (Text.trim encoded.toList)
  · obtain ⟨secret, data, made, written, entry⟩ := registrySecret_of_canonical ns name good
    rw [made]
    refine (w.yields_create ns secret).mono fun _ _ inquired => ?_
    cases inquired with
    | unasked invalid =>
        obtain ⟨unmade, rfl⟩ := ApiRequest.make_eq_error.mp invalid
        exact .unsent good unmade
    | @asked e asked =>
        obtain ⟨target, known, same⟩ := ApiRequest.make_eq_ok.mp asked
        refine .posted good ?_ ?_
        · rw [same]
          exact known
        · rw [same]
          exact ⟨rfl, _, data, rfl, written, entry⟩
  · rw [registrySecret_of_not_canonical good]
    exact yields_throw (.refused good)

/-! ## Files -/

def filed (context : String) (outcome : Except String Unit) : Except Failure Unit :=
  (outcome.mapError Failure.ofText).mapError (·.within context)

/-- What it comes to that credentials are to be written below a home directory: the text is refused,
or a directory is made for the file and, if that could be done, the bytes are written to it. -/
inductive CredentialsWritten (home : String) (text : List Char) :
    Except Failure Unit → List Act → Prop where
  | refused (junk : ¬Base64.Canonical text) : CredentialsWritten home text
      (.error ((Failure.malformed .base64).within "QUAY_TOKEN is not valid base64")) []
  | unmade {fault : String} (good : Base64.Canonical text) : CredentialsWritten home text
      (filed ("Could not create " ++ joinPath home ".docker") (.error fault))
      [.madeDirectories (joinPath home ".docker") (.error fault)]
  | written {bytes : List UInt8} {outcome : Except String Unit}
      (writes : Base64.Writes bytes text) : CredentialsWritten home text
      (filed "Could not write the docker config" outcome)
      [.madeDirectories (joinPath home ".docker") (.ok ()),
        .wrote (joinPath (joinPath home ".docker") "config.json") bytes outcome]

theorem Host.comesTo_makeDirectories (host : Host σ) (path context : String) :
    ((onFiles (host.journaled.makeDirectories path)).within context).ComesTo fun result acts =>
      ∃ outcome, result = filed context outcome ∧ acts = [.madeDirectories path outcome] :=
  fun _ _ => ⟨_, _, _, rfl, _, rfl, rfl⟩

theorem Host.comesTo_writeFile_within (host : Host σ) (path context : String) (content : List UInt8) :
    ((onFiles (host.journaled.writeFile path content)).within context).ComesTo fun result acts =>
      ∃ outcome, result = filed context outcome ∧ acts = [.wrote path content outcome] :=
  fun _ _ => ⟨_, _, _, rfl, _, rfl, rfl⟩

theorem PatchSettings.comesTo_writeCredentials (host : Host σ) (token home : String) :
    (writeCredentials host.journaled token home).ComesTo
      (CredentialsWritten home (Text.trim token.toList)) := by
  unfold writeCredentials
  cases read : Base64.decode (Text.trim token.toList) with
  | none => exact comesTo_ofExcept (.refused (Base64.decode_eq_none_iff.mp read))
  | some config =>
      have writes := Base64.decode_eq_some_iff.mp read
      refine (host.comesTo_makeDirectories _ _).bind ?_ ?_
      · rintro failure acts ⟨outcome, failed, rfl⟩
        cases outcome with
        | ok => cases failed
        | error fault =>
            rw [failed]
            exact .unmade ⟨config, writes⟩
      · rintro _ acts ⟨outcome, went, rfl⟩
        cases outcome with
        | error => cases went
        | ok =>
            refine (host.comesTo_writeFile_within _ _ config).mono ?_
            rintro _ _ ⟨outcome, rfl, rfl⟩
            exact .written writes

/-! ## Both consumers -/

/-- A secret is posted exactly if a text is in base64, and then the text is posted as it is, by one
request if the namespace has a path.  Any other text is refused, and nothing is sent. -/
structure PostedUnchanged (ns : String) (text : List Char) (result : Except Error Secret)
    (exchanges : List Exchange) : Prop where
  refused : ¬Base64.Canonical text → result = .error (.decode "registry auth") ∧ exchanges = []
  accepted : Base64.Canonical text → ∀ what, result ≠ .error (.decode what)
  targets : Base64.Canonical text →
    exchanges.map (·.request.target) = (Target.make (Secret.kind.path ns) []).toList
  posts : Base64.Canonical text → ∀ e ∈ exchanges, e.request.PostsConfiguration text
  posted_iff : ns.toList.all Target.pathChar = true → (exchanges ≠ [] ↔ Base64.Canonical text)

/-- The bytes that a text in base64 spells are written below a home directory, and nothing else.
Any other text is refused, and nothing is written. -/
structure FiledUnchanged (home : String) (text : List Char) (result : Except Failure Unit)
    (acts : List Act) : Prop where
  refused : ¬Base64.Canonical text →
    result = .error ((Failure.malformed .base64).within "QUAY_TOKEN is not valid base64") ∧
      acts = []
  written : ∀ bytes, Base64.Writes bytes text →
    (∃ fault, result = filed ("Could not create " ++ joinPath home ".docker") (.error fault) ∧
      acts = [.madeDirectories (joinPath home ".docker") (.error fault)]) ∨
    ∃ outcome, result = filed "Could not write the docker config" outcome ∧
      acts = [.madeDirectories (joinPath home ".docker") (.ok ()),
        .wrote (joinPath (joinPath home ".docker") "config.json") bytes outcome]

theorem SecretMade.postedUnchanged {ns : String} {text : List Char} {result : Except Error Secret}
    {exchanges : List Exchange} (made : SecretMade ns text result exchanges) :
    PostedUnchanged ns text result exchanges := by
  refine ⟨fun junk => ?_, fun good => ?_, fun good => ?_, fun good => ?_, made.isEmpty_iff⟩
  · cases made with
    | refused => exact ⟨rfl, rfl⟩
    | unsent good | posted good => exact absurd good junk
  · cases made with
    | refused junk => exact absurd good junk
    | unsent => exact nofun
    | @posted e =>
        unfold created
        cases e.reply.text.bind (parsed (HasKind.codec (α := Secret))) <;> nofun
  · cases made with
    | refused junk => exact absurd good junk
    | unsent _ invalid =>
        rw [invalid]
        rfl
    | posted _ target =>
        rw [target]
        rfl
  · cases made with
    | refused | unsent => nofun
    | posted _ _ posts => exact List.forall_mem_singleton.mpr posts

theorem CredentialsWritten.filedUnchanged {home : String} {text : List Char}
    {result : Except Failure Unit} {acts : List Act}
    (written : CredentialsWritten home text result acts) : FiledUnchanged home text result acts := by
  refine ⟨fun junk => ?_, fun bytes writes => ?_⟩
  · cases written with
    | refused => exact ⟨rfl, rfl⟩
    | unmade good => exact absurd good junk
    | written writes => exact absurd ⟨_, writes⟩ junk
  · cases written with
    | refused junk => exact absurd ⟨bytes, writes⟩ junk
    | unmade => exact .inl ⟨_, rfl, rfl⟩
    | written writes' =>
        cases writes.bytes_unique writes'
        exact .inr ⟨_, rfl, rfl⟩

/-- Credentials are posted and written unchanged but for the blanks around them. -/
theorem credentials_unchanged (σ : Type) (text : String) :
    ∃ left, Text.Trims text.toList left ∧
      (∀ (w : World σ) (ns name : String),
        Yields (w.journaled.createRegistryAuthSecret ns name text) (PostedUnchanged ns left)) ∧
      ∀ (host : Host σ) (home : String),
        (PatchSettings.writeCredentials host.journaled text home).ComesTo
          (FiledUnchanged home left) := by
  refine ⟨_, Text.trims_trim text.toList, fun w ns name => ?_, fun host home => ?_⟩
  · exact (w.yields_createRegistryAuthSecret ns name text).mono fun _ _ made =>
      made.postedUnchanged
  · exact (PatchSettings.comesTo_writeCredentials host text home).mono fun _ _ written =>
      written.filedUnchanged

namespace Rehearsal

def homeHost : Host HostState := host {
  server := "", script := [], secureServers := [], secureScript := none, programs := []
  plays := [], absent := [], environment := [], verbosity := .info, coloured := false
  workingDirectory := "/", home := "/home", repository := ".", kubeconfig := none
  executable := "", today := ⟨⟨2024, 3, 10⟩, 720, 0, 0⟩ }

/-- Credentials with blanks around them are posted without the blanks, and written as what they
spell. -/
theorem blankToken_unchanged :
    ("test".toList.all Target.pathChar = true ∧ Base64.Writes [123, 125] "e30=".toList) ∧
      Yields (homeHost.toWorld.journaled.createRegistryAuthSecret "test" "quay" " e30=\n")
        (fun _ exchanges => exchanges ≠ [] ∧
          ∀ e ∈ exchanges, e.request.PostsConfiguration "e30=".toList) ∧
      (PatchSettings.writeCredentials homeHost.journaled " e30=\n" "/home").ComesTo
        fun _ acts => (∃ fault, acts = [.madeDirectories "/home/.docker" (.error fault)]) ∨
          ∃ outcome, acts = [.madeDirectories "/home/.docker" (.ok ()),
            .wrote "/home/.docker/config.json" [123, 125] outcome] := by
  obtain ⟨left, trims, creates, writes⟩ := credentials_unchanged HostState " e30=\n"
  obtain rfl : "e30=".toList = left := Eq.trans (by decide +kernel) (Text.trims_iff.mp trims)
  have spelled : Base64.Writes [123, 125] "e30=".toList :=
    Base64.decode_eq_some_iff.mp (by decide +kernel)
  have plain : "test".toList.all Target.pathChar = true := by decide +kernel
  refine ⟨⟨plain, spelled⟩, ?_, ?_⟩
  · refine (creates homeHost.toWorld "test" "quay").mono fun _ exchanges known => ?_
    exact ⟨(known.posted_iff plain).mpr ⟨_, spelled⟩, known.posts ⟨_, spelled⟩⟩
  · refine (writes homeHost "/home").mono fun _ acts known => ?_
    have directory : joinPath "/home" ".docker" = "/home/.docker" := by decide +kernel
    have file : joinPath "/home/.docker" "config.json" = "/home/.docker/config.json" := by
      decide +kernel
    have written := known.written _ spelled
    rw [directory, file] at written
    exact written.imp (fun ⟨fault, _, acts⟩ => ⟨fault, acts⟩)
      fun ⟨outcome, _, acts⟩ => ⟨outcome, acts⟩

end Rehearsal

end ClusterHarness
