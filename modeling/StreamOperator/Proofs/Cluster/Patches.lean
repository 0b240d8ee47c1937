import StreamOperator.Handler
import StreamOperator.Proofs.Cluster.Requests
import StreamOperator.Proofs.Cluster.Writes
import StreamOperator.Proofs.Kube.Patches

/-!
# Writes to a server and writes in memory

A server keeps documents and applies merge patches to them (`Server.Merges`). An annotation or a status
that is written to such a server comes to what the same write comes to in memory, but for the version
(`patches_mean_what_memory_does`).
-/

set_option autoImplicit false

namespace StreamOperator

/-! ## What a write changes -/

/-- Where an annotation stands in a document. -/
def annotationPath (key : String) : List String := ["metadata", "annotations", key]

/-- Where the version stands in a document. -/
def versionPath : List String := ["metadata", "resourceVersion"]

/-- An annotation was set or removed, and nothing else changed but what stands under other paths. -/
structure AnnotationWritten (key : String) (value : Option String) (others : List (List String))
    (before after : Json) : Prop where
  written : after.at? (annotationPath key) = value.map .str
  kept : Json.SameApartFrom (annotationPath key :: others) before after

/-- The status has the phase and the conditions that were written, and outside of it nothing changed but
what stands under other paths. -/
structure StatusWritten (status : Json) (others : List (List String)) (before after : Json) : Prop where
  phase : after.at? ["status", "phase"] = status.field? "phase"
  conditions : after.at? ["status", "conditions"] = status.field? "conditions"
  kept : Json.SameApartFrom (["status"] :: others) before after

section

variable {before after : Json} {key : String} {value : Option String}

theorem annotationPatch_eq (key : String) (value : Option String) :
    annotationPatch key value = Json.patchAt (annotationPath key) (Encode.optional .str value) := rfl

theorem isCanonical_annotationPatch (key : String) (value : Option String) :
    (annotationPatch key value).isCanonical = true := by
  have form : (Encode.optional Json.str value).isCanonical = true := by cases value <;> rfl
  exact Json.isCanonical_patchAt form (annotationPath key)

theorem isCanonical_versionPatch (version : String) : (versionPatch version).isCanonical = true :=
  Json.isCanonical_patchAt rfl versionPath

theorem isCanonical_statusPatch {status : Json} (form : status.isCanonical = true) :
    (statusPatch status).isCanonical = true := Json.isCanonical_patchAt form ["status"]

theorem annotationWritten_patch (document : Json) (key : String) (value : Option String) :
    AnnotationWritten key value [] document (document.mergePatch (annotationPatch key value)) where
  written := by
    have longer : annotationPath key ≠ [] := List.cons_ne_nil _ _
    rw [annotationPatch_eq, Json.at?_patchAt longer]
    cases value <;> rfl
  kept := Json.sameApartFrom_patchAt (annotationPath key) _ document

/-- A phase and conditions are put in, whatever status there is. -/
theorem statusWritten_patch (document : Json) (items : List Json) (phase : String) :
    let status := Json.obj [("conditions", .arr items), ("phase", .str phase)]
    StatusWritten status [] document (document.mergePatch (statusPatch status)) := by
  intro status
  have placed : ∀ key, (document.mergePatch (statusPatch status)).at? ["status", key]
      = (((document.field? "status").getD .null).mergePatch status).field? key := by
    intro key
    have present : status ≠ .null := nofun
    rw [statusPatch, Json.mergePatch_field present]
    simp only [Json.at?, Json.field?, Entries.get?_insert_self, Option.bind_some, Option.bind_fun_some]
  have distinct : ([("conditions", Json.arr items), ("phase", Json.str phase)].map Prod.fst).Nodup := by
    simp
  refine ⟨?_, ?_, Json.sameApartFrom_patchAt ["status"] _ _⟩ <;>
    rw [placed, Json.field?_mergePatch distinct] <;> rfl

/-- A new version is nowhere near an annotation. -/
theorem AnnotationWritten.versioned (written : AnnotationWritten key value [] before after)
    (version : String) :
    AnnotationWritten key value [versionPath] before (after.mergePatch (versionPatch version)) where
  written := by
    have apart : Json.Apart versionPath (annotationPath key) := by
      constructor <;> simp [versionPath, annotationPath]
    exact (Json.at?_patchAt_of_apart apart _ after).trans written.written
  kept := written.kept.trans (Json.sameApartFrom_patchAt versionPath _ after)

theorem StatusWritten.versioned {status : Json} (written : StatusWritten status [] before after)
    (version : String) :
    StatusWritten status [versionPath] before (after.mergePatch (versionPatch version)) where
  phase := by
    have apart : Json.Apart versionPath ["status", "phase"] := by constructor <;> simp [versionPath]
    exact (Json.at?_patchAt_of_apart apart _ after).trans written.phase
  conditions := by
    have apart : Json.Apart versionPath ["status", "conditions"] := by constructor <;> simp [versionPath]
    exact (Json.at?_patchAt_of_apart apart _ after).trans written.conditions
  kept := written.kept.trans (Json.sameApartFrom_patchAt versionPath _ after)

end

/-! ## Servers -/

/-- A server that keeps documents under paths merges into them what it is sent as a merge patch, be it for
a whole document or for its status, and gives the document a new version; unless it refuses. -/
structure Server.Merges {σ : Type} (s : Server σ) (stored : σ → String → Option Json) : Prop where
  /-- Nothing in the path of a document ends it. -/
  plain : ∀ st path document, stored st path = some document →
    path.toList.all Target.isPathChar = true
  whole : ∀ st st' path parameters change code text document,
    s.send ⟨.patch, ⟨path, parameters⟩, some (.mergePatch, change)⟩ st = (.answer code text, st') →
    Reply.reportsFailure code = false → change.field? "status" = none →
    stored st path = some document → ∃ version,
      stored st' path = some ((document.mergePatch change).mergePatch (versionPatch version))
  status : ∀ st st' path parameters status code text document,
    s.send ⟨.patch, ⟨path ++ "/status", parameters⟩, some (.mergePatch, statusPatch status)⟩ st
      = (.answer code text, st') →
    Reply.reportsFailure code = false → stored st path = some document → ∃ version, stored st' path
      = some ((document.mergePatch (statusPatch status)).mergePatch (versionPatch version))

namespace Server

variable {σ α : Type} {s : Server σ} {st st' : σ} {decode : Decoder α} {c : Coordinates}
  {space name part : String} {change : Json}

/-- The server keeps a document at a path, and something is read of it. -/
structure Serves (stored : σ → String → Option Json) (decode : Decoder α) (st : σ) (path : String)
    (document : Json) (a : α) : Prop where
  kept : stored st path = some document
  canonical : document.isCanonical = true
  read : decode document = .ok a

/-- The patched document is read as what is read of the patch, with a new version. -/
theorem Serves.patched {stored : σ → String → Option Json} {path : String} {document : Json} {a b : α}
    (serves : Serves stored decode st path document a)
    {metadata : α → Metadata} {replace : α → Metadata → α}
    (keeps : decode.KeepsMetadata metadata replace) (form : change.isCanonical = true)
    (changed : decode (document.mergePatch change) = .ok b) {version : String}
    (kept : stored st' path = some ((document.mergePatch change).mergePatch (versionPatch version))) :
    Serves stored decode st' path ((document.mergePatch change).mergePatch (versionPatch version))
      (replace b { metadata b with resourceVersion := some version }) where
  kept := kept
  canonical := Json.isCanonical_mergePatch _ _
    (Json.isCanonical_mergePatch _ _ serves.canonical form) (isCanonical_versionPatch version)
  read := keeps.versionPatch changed version

namespace Merges

variable {stored : σ → String → Option Json} {document : Json}

/-- A patch that succeeds was sent to the path of the resource, or of a part of it. -/
theorem exists_answer (merges : s.Merges stored)
    (kept : stored st (c.resourcePath space name) = some document)
    (plain : part.toList.all Target.isPathChar = true)
    (done : s.patch decode c space name part change st = (.ok (), st')) :
    ∃ parameters code text, s.send ⟨.patch, ⟨c.resourcePath space name ++ part, parameters⟩,
        some (.mergePatch, change)⟩ st = (.answer code text, st') ∧ Reply.reportsFailure code = false := by
  obtain ⟨request, code, text, a, built, answered, accepted, -⟩ := patch_eq_ok_iff.1 done
  obtain ⟨-, -, ⟨path, parameters⟩, named, rfl⟩ := patchRequest_eq_ok_iff.1 built
  obtain rfl := Target.path_of_ofText (Target.plain_append (merges.plain _ _ _ kept) plain) named
  exact ⟨parameters, code, text, answered, accepted⟩

theorem patchWhole (merges : s.Merges stored)
    (kept : stored st (c.resourcePath space name) = some document)
    (noStatus : change.field? "status" = none)
    (done : s.patch decode c space name "" change st = (.ok (), st')) :
    ∃ version, stored st' (c.resourcePath space name)
      = some ((document.mergePatch change).mergePatch (versionPatch version)) := by
  obtain ⟨parameters, code, text, answered, accepted⟩ := merges.exists_answer kept rfl done
  rw [String.append_empty] at answered
  exact merges.whole _ _ _ _ _ _ _ _ answered accepted noStatus kept

theorem patchStatus (merges : s.Merges stored) {status : Json}
    (kept : stored st (c.resourcePath space name) = some document)
    (done : s.patch decode c space name "/status" (statusPatch status) st = (.ok (), st')) :
    ∃ version, stored st' (c.resourcePath space name)
      = some ((document.mergePatch (statusPatch status)).mergePatch (versionPatch version)) := by
  obtain ⟨parameters, code, text, answered, accepted⟩ :=
    merges.exists_answer kept Target.plain_status done
  exact merges.status _ _ _ _ _ _ _ _ answered accepted kept

/-- An annotation that is written is read as it is in memory, with a new version. -/
theorem annotation {a : α} (merges : s.Merges stored) {metadata : α → Metadata}
    {replace : α → Metadata → α} (keeps : decode.KeepsMetadata metadata replace)
    (serves : Serves stored decode st (c.resourcePath space name) document a) {key : String}
    {value : Option String}
    (done : s.patch decode c space name "" (annotationPatch key value) st = (.ok (), st')) :
    let b := replace a ((metadata a).annotate key value)
    ∃ document' version, AnnotationWritten key value [versionPath] document document' ∧
      Serves stored decode st' (c.resourcePath space name) document'
        (replace b { metadata b with resourceVersion := some version }) := by
  obtain ⟨version, kept⟩ := merges.patchWhole serves.kept rfl done
  have changed := keeps.annotationPatch serves.canonical serves.read key value
  exact ⟨_, version, (annotationWritten_patch document key value).versioned version,
    serves.patched keeps (isCanonical_annotationPatch key value) changed kept⟩

end Merges

/-- Where a server and the memory have the same resource, a status that is written to both is read as the
same status from both, with a phase. In memory it takes the place of the status before, on the server it is
merged into it; nothing else changes but the version. -/
def RestatesAlike {P : Type} (s : Server σ) (stored : σ → String → Option Json)
    (decode : Decoder (Status P)) (c : Coordinates) (space name : String) (status : Json) (phase : P) :
    Prop :=
  ∀ (st st' : σ) (document : Json) (r : Resource) (k : Cluster),
    Serves stored Resource.decode st (c.resourcePath space name) document r →
    k.resource? c space name = some r →
    k.failing.contains "patch_custom_resource_status" = false →
    s.api.patchStatus c space name status st = (.ok (), st') →
    let merged := ((r.data.get? "status").getD .null).mergePatch status
    ∃ document' k' version version' written,
      StatusWritten status [versionPath] document document' ∧
      Serves stored Resource.decode st' (c.resourcePath space name) document'
        (Cluster.restated r merged version) ∧
      Cluster.api.patchStatus c space name status k = (.ok (), k') ∧
      k'.resource? c space name = some (Cluster.restated r status version') ∧
      written.phase = some phase ∧ decode merged = .ok written ∧ decode status = .ok written

theorem Merges.restatesAlike {P : Type} {stored : σ → String → Option Json} (merges : s.Merges stored)
    {decodePhase : Decoder P} {encodePhase : P → Json}
    (inverse : ∀ p, Decode.optional decodePhase (encodePhase p) = .ok (some p))
    (texts : ∀ p, ∃ text, encodePhase p = .str text) (owner condition : String) (phase : P)
    (conditions : List Condition) :
    s.RestatesAlike stored (Record.struct owner (Status.record decodePhase condition)) c space name
      (Status.encode encodePhase ⟨some phase, conditions⟩) phase := by
  intro st st' document r k serves found works done merged
  -- The fields of the status are no objects, so that each of them is replaced as a whole.
  obtain ⟨text, named⟩ := texts phase
  have status : Status.encode encodePhase ⟨some phase, conditions⟩
      = .obj [("conditions", .arr (conditions.map Condition.encode)), ("phase", .str text)] := by
    rw [← named]
    rfl
  have present : Status.encode encodePhase ⟨some phase, conditions⟩ ≠ .null := nofun
  obtain ⟨version, kept⟩ := merges.patchStatus serves.kept done
  have changed := Resource.decode_statusPatch serves.canonical serves.read present
  have form := isCanonical_statusPatch (Status.isCanonical_encode texts ⟨some phase, conditions⟩)
  have ordered : Entries.Sorted ((r.data.get? "status").getD .null).fieldsOf := by
    rw [Resource.get?_status serves.canonical serves.read]
    exact Json.sorted_fieldsOf (Json.isCanonical_field serves.canonical "status")
  have inMemory := Cluster.patchStatus_of_found found (Status.encode encodePhase ⟨some phase, conditions⟩)
  rw [works] at inMemory
  refine ⟨_, _, version, k.nextVersion, ⟨some phase, conditions⟩, ?_,
    serves.patched Resource.keepsMetadata form changed kept, inMemory, Cluster.afterResource_target, rfl,
    Status.decode_mergePatch inverse texts owner condition rfl ordered,
    Status.decode_encode inverse owner condition _⟩
  rw [status]
  exact (statusWritten_patch document _ text).versioned version

end Server

/-! ## Statuses that are written -/

/-- A status that is to be written names the phase, whatever resource it is made from. -/
theorem Handler.exists_of_prepared {σ P : Type} [DecidableEq P] {look : Act σ (Option Resource)}
    {current : Resource → Status P} {encode : Status P → Json} {now : String} {phase : P}
    {pending : List Condition} {t t' : σ} {status : Json}
    (prepared : (do
      match ← look with
      | none => return none
      | some r => return ((current r).advance now phase pending).map encode : Act σ (Option Json)) t
        = (.ok (some status), t')) :
    ∃ conditions, status = encode ⟨some phase, conditions⟩ := by
  rw [Act.bind_apply] at prepared
  split at prepared
  · split at prepared
    · cases prepared
    · obtain ⟨next, advanced, rfl⟩ := Option.map_eq_some_iff.1 (Except.ok.inj (Prod.mk.inj prepared).1)
      exact ⟨_, congrArg encode (Status.eq_of_advance advanced)⟩
  · cases prepared

/-! ## The server and the memory -/

/-- What is written to a server that applies merge patches comes to the same as in memory, but for the
version. An annotation patch sets or removes the annotation in any document, with or without others, and
changes nothing else; resources and jobs are then read with the annotations that they have in memory. A
patch of a status that is written for a stream or for a class leaves its phase and its conditions in any
document, whatever status that has, and the status is read as it is read in memory. -/
theorem patches_mean_what_memory_does {σ : Type} {s : Server σ} {stored : σ → String → Option Json}
    (merges : s.Merges stored) :
    (∀ (document : Json) (key : String) (value : Option String),
      AnnotationWritten key value [] document (document.mergePatch (annotationPatch key value))) ∧
    (∀ (c : Coordinates) (space name key : String) (value : Option String) (st st' : σ)
      (document : Json) (r : Resource) (k : Cluster),
      Server.Serves stored Resource.decode st (c.resourcePath space name) document r →
      k.resource? c space name = some r → k.failing.contains "annotate_resource" = false →
      s.api.annotateResource c space name key value st = (.ok (), st') →
      ∃ document' k' version version', AnnotationWritten key value [versionPath] document document' ∧
        Server.Serves stored Resource.decode st' (c.resourcePath space name) document'
          (Cluster.annotated r key value version) ∧
        Cluster.api.annotateResource c space name key value k = (.ok (), k') ∧
        k'.resource? c space name = some (Cluster.annotated r key value version')) ∧
    (∀ (space name key : String) (value : Option String) (st st' : σ) (document : Json) (job : Job)
      (k : Cluster),
      Server.Serves stored Job.decode st (Coordinates.jobs.resourcePath space name) document job →
      k.job? space name = some job → k.failing.contains "annotate_job" = false →
      s.api.annotateJob space name key value st = (.ok (), st') →
      let changed := { job with metadata := job.metadata.annotate key value }
      ∃ document' k' version version', AnnotationWritten key value [versionPath] document document' ∧
        Server.Serves stored Job.decode st' (Coordinates.jobs.resourcePath space name) document'
          (Cluster.versionedJob changed version) ∧
        Cluster.api.annotateJob space name key value k = (.ok (), k') ∧
        k'.job? space name = some (Cluster.versionedJob changed version')) ∧
    (∀ (τ : Type) (h : Handler τ) (stream : StreamRef) (phase : StreamPhase) (pending : List Condition)
      (t t' : τ) (status : Json),
      h.prepareStreamStatus stream phase pending t = (.ok (some status), t') →
      (∀ document, StatusWritten status [] document (document.mergePatch (statusPatch status))) ∧
      s.RestatesAlike stored StreamStatus.decode stream.coordinates stream.space stream.name status
        phase) ∧
    ∀ (τ : Type) (h : Handler τ) (c : ClassRef) (phase : ClassPhase) (pending : List Condition)
      (t t' : τ) (status : Json),
      h.prepareClassStatus c phase pending t = (.ok (some status), t') →
      (∀ document, StatusWritten status [] document (document.mergePatch (statusPatch status))) ∧
      s.RestatesAlike stored ClassStatus.decode StreamClass.coordinates c.space c.name status phase := by
  refine ⟨annotationWritten_patch, ?_, ?_, ?_, ?_⟩
  · intro c space name key value st st' document r k serves found works done
    obtain ⟨document', version, written, served⟩ := merges.annotation Resource.keepsMetadata serves done
    have inMemory := Cluster.annotateResource_of_found found key value
    rw [works] at inMemory
    exact ⟨document', _, version, _, written, served, inMemory, Cluster.afterResource_target⟩
  · intro space name key value st st' document job k serves found works done changed
    obtain ⟨document', version, written, served⟩ := merges.annotation Job.keepsMetadata serves done
    have inMemory := Cluster.annotateJob_of_found found key value
    rw [works] at inMemory
    exact ⟨document', _, version, _, written, served, inMemory, Cluster.afterJob_target⟩
  · intro τ h stream phase pending t t' status prepared
    obtain ⟨conditions, rfl⟩ := Handler.exists_of_prepared prepared
    exact ⟨fun document => statusWritten_patch document _ phase.text, merges.restatesAlike
      StreamPhase.decode_encode (fun p => ⟨p.text, rfl⟩) _ _ phase conditions⟩
  · intro τ h c phase pending t t' status prepared
    obtain ⟨conditions, rfl⟩ := Handler.exists_of_prepared prepared
    exact ⟨fun document => statusWritten_patch document _ phase.text, merges.restatesAlike
      ClassPhase.decode_encode (fun p => ⟨p.text, rfl⟩) _ _ phase conditions⟩

/-! ## A server of one document -/

/-- A server of one document, with the number of its versions so far. -/
structure Shelf where
  document : Json
  version : Nat

namespace Shelf

variable {α : Type}

/-- The shelf after a patch of its document. -/
def after (shelf : Shelf) (change : Json) : Shelf :=
  ⟨(shelf.document.mergePatch change).mergePatch (versionPatch (toString (shelf.version + 1))),
    shelf.version + 1⟩

/-- Patches of the document, or of its status, are merged and answered with the document. -/
def server (path : String) : Server Shelf where
  fieldManager := "stream-operator"
  send request shelf :=
    match request with
    | ⟨.patch, target, some (.mergePatch, change)⟩ =>
      if target.path = path ∨ target.path = path ++ "/status" then
        (.answer 200 (shelf.after change).document.render, shelf.after change)
      else (.answer 404 "", shelf)
    | _ => (.answer 405 "", shelf)

def stored (path : String) (shelf : Shelf) (asked : String) : Option Json :=
  if asked = path then some shelf.document else none

theorem stored_eq_some_iff {path asked : String} {shelf : Shelf} {document : Json} :
    stored path shelf asked = some document ↔ asked = path ∧ shelf.document = document := by
  by_cases same : asked = path <;> simp [stored, same]

theorem merges {path : String} (plain : path.toList.all Target.isPathChar = true) :
    (server path).Merges (stored path) where
  plain shelf asked document kept := by
    obtain ⟨rfl, -⟩ := stored_eq_some_iff.1 kept
    exact plain
  whole shelf shelf' asked parameters change code text document answered _ _ kept := by
    obtain ⟨rfl, rfl⟩ := stored_eq_some_iff.1 kept
    have left : (server asked).send ⟨.patch, ⟨asked, parameters⟩, some (.mergePatch, change)⟩ shelf
        = (.answer 200 (shelf.after change).document.render, shelf.after change) := if_pos (.inl rfl)
    obtain rfl := (Prod.mk.inj (left.symm.trans answered)).2
    exact ⟨_, stored_eq_some_iff.2 ⟨rfl, rfl⟩⟩
  status shelf shelf' asked parameters status code text document answered _ kept := by
    obtain ⟨rfl, rfl⟩ := stored_eq_some_iff.1 kept
    have left : (server asked).send
        ⟨.patch, ⟨asked ++ "/status", parameters⟩, some (.mergePatch, statusPatch status)⟩ shelf
        = (.answer 200 (shelf.after (statusPatch status)).document.render,
          shelf.after (statusPatch status)) := if_pos (.inr rfl)
    obtain rfl := (Prod.mk.inj (left.symm.trans answered)).2
    exact ⟨_, stored_eq_some_iff.2 ⟨rfl, rfl⟩⟩

/-- The query of a write. -/
def query : String := Target.query [("fieldManager", "stream-operator")]

theorem asked : (query.toList.tail.takeWhile (· ≠ '#')).all Target.isQueryChar = true := by
  rw [Target.isQueryChar_eq]
  decide +kernel

/-- A resource has a name, and its path can be part of a target. -/
structure Named (c : Coordinates) (space name : String) : Prop where
  present : name ≠ ""
  plain : (c.resourcePath space name).toList.all Target.isPathChar = true
  short : (c.resourcePath space name).utf8ByteSize ≤ 1000

theorem Named.target {c : Coordinates} {space name part : String} (named : Named c space name)
    (plain : part.toList.all Target.isPathChar = true) (brief : part.utf8ByteSize ≤ 7) :
    ∃ parameters, Target.ofText (c.resourcePath space name ++ part ++ query)
      = .ok ⟨c.resourcePath space name ++ part, parameters⟩ := by
  have room : ¬ Target.greatestSize < (c.resourcePath space name ++ part ++ query).utf8ByteSize := by
    have more : query.utf8ByteSize ≤ 100 := by decide +kernel
    have greatest : Target.greatestSize = 65534 := rfl
    have short := named.short
    rw [String.utf8ByteSize_append, String.utf8ByteSize_append]
    omega
  exact ⟨_, (Target.ofText_append_query (Target.plain_append named.plain plain)).trans
    ((if_neg room).trans (if_pos asked))⟩

/-- A patch of a document or of its status succeeds if what is answered can be read. -/
theorem patch_ok {decode : Decoder α} {c : Coordinates} {space name part : String} {change : Json}
    {shelf : Shelf} (named : Named c space name) (known : part = "" ∨ part = "/status")
    (readable : (decode.ofText (shelf.after change).document.render).toOption.isSome = true) :
    (server (c.resourcePath space name)).patch decode c space name part change shelf
      = (.ok (), shelf.after change) := by
  obtain ⟨⟨parameters, target⟩, concerned⟩ : (∃ parameters,
      Target.ofText (c.resourcePath space name ++ part ++ query)
        = .ok ⟨c.resourcePath space name ++ part, parameters⟩) ∧
      (c.resourcePath space name ++ part = c.resourcePath space name ∨
        c.resourcePath space name ++ part = c.resourcePath space name ++ "/status") := by
    rcases known with rfl | rfl
    · exact ⟨named.target rfl (by decide), .inl String.append_empty⟩
    · exact ⟨named.target Target.plain_status (by decide), .inr rfl⟩
  have brief : "stream-operator".utf8ByteSize ≤ 128 := by decide
  cases read : decode.ofText (shelf.after change).document.render with
  | error e =>
    rw [read] at readable
    cases readable
  | ok a =>
    exact Server.patch_eq_ok_iff.2 ⟨_, 200, _, a,
      Server.patchRequest_eq_ok_iff.2 ⟨named.present, brief, _, target, rfl⟩, if_pos concerned, rfl, read⟩

section Orders

/-- The kind of the orders. -/
def tables : Coordinates := ⟨"example.com", "v1", "tablestreams", "TableStream"⟩

/-- A status with a part of its own and a phase that is none. -/
def looseStatus : Json := .obj [("lag", .int 5), ("phase", .int 3)]

/-- Orders as they are stored, without annotations. -/
def ordersDocument : Json := .obj [("apiVersion", .str "example.com/v1"), ("kind", .str "TableStream"),
  ("metadata", .obj [("name", .str "orders"), ("namespace", .str "streams")]), ("status", looseStatus)]

def orders : Resource := ⟨some ⟨"example.com/v1", "TableStream"⟩,
  { name := some "orders", space := some "streams" }, .ofList [("status", looseStatus)]⟩

/-- The job of the orders as it is stored, with an annotation. -/
def jobDocument : Json := .obj [("apiVersion", .str "batch/v1"), ("kind", .str "Job"), ("metadata", .obj [
  ("annotations", .obj [("owner", .str "billing")]), ("name", .str "orders"),
  ("namespace", .str "streams")])]

def job : Job := { metadata := {
  name := some "orders", space := some "streams", annotations := some (.ofList [("owner", "billing")]) } }

/-- A class as it is stored, without a status. -/
def classDocument : Json := .obj [("apiVersion", .str "arcane.dev/v1"), ("kind", .str "StreamClass"),
  ("metadata", .obj [("name", .str "tables"), ("namespace", .str "streams")])]

def tableClass : Resource := ⟨some ⟨"arcane.dev/v1", "StreamClass"⟩,
  { name := some "tables", space := some "streams" }, .empty⟩

/-- The orders, their job and their class in memory. -/
def memory : Cluster where
  resources := [(⟨"tablestreams", "streams", "orders"⟩, orders),
    (⟨"streamclasses", "streams", "tables"⟩, tableClass)]
  jobs := [(⟨"streams", "orders"⟩, job)]

def handler : Handler Cluster := ⟨Cluster.api, fun _ => none, "2024-01-01T00:00:00Z"⟩

def running : Json := StreamStatus.encode ⟨some .running, []⟩

def ready : Json := ClassStatus.encode ⟨some .ready, []⟩

theorem named : Named tables "streams" "orders" ∧ Named .jobs "streams" "orders" ∧
    Named StreamClass.coordinates "streams" "tables" := by
  refine ⟨⟨by decide, ?_, by decide +kernel⟩, ⟨by decide, ?_, by decide +kernel⟩,
    ⟨by decide, ?_, by decide +kernel⟩⟩ <;> rw [Target.isPathChar_eq] <;> decide +kernel

/-- What the server answers to the patches is read. -/
theorem readable :
    (Resource.decode.ofText
      (after ⟨ordersDocument, 7⟩ (annotationPatch "owner" none)).document.render).toOption.isSome = true ∧
    (Job.decode.ofText
      (after ⟨jobDocument, 7⟩ (annotationPatch "owner" (some "sales"))).document.render).toOption.isSome
        = true ∧
    (Resource.decode.ofText
      (after ⟨ordersDocument, 7⟩ (statusPatch running)).document.render).toOption.isSome = true ∧
    (Resource.decode.ofText
      (after ⟨classDocument, 7⟩ (statusPatch ready)).document.render).toOption.isSome = true := by
  refine ⟨?_, ?_, ?_, ?_⟩ <;> rw [Decoder.ofText, Json.readText, Json.render, String.toList_ofList] <;>
    decide +kernel

/-- An annotation that is not there is removed from the orders, one of their job is replaced, and the orders
and their class get a status, on a server and in memory. -/
theorem orders_are_patched_as_in_memory :
    let ordersPath := tables.resourcePath "streams" "orders"
    let jobPath := Coordinates.jobs.resourcePath "streams" "orders"
    let classPath := StreamClass.coordinates.resourcePath "streams" "tables"
    (∃ document k version version', AnnotationWritten "owner" none [versionPath] ordersDocument document ∧
      Server.Serves (stored ordersPath) Resource.decode
        (after ⟨ordersDocument, 7⟩ (annotationPatch "owner" none)) ordersPath document
        (Cluster.annotated orders "owner" none version) ∧
      Cluster.api.annotateResource tables "streams" "orders" "owner" none memory = (.ok (), k) ∧
      k.resource? tables "streams" "orders" = some (Cluster.annotated orders "owner" none version')) ∧
    (∃ document, AnnotationWritten "owner" (some "sales") [versionPath] jobDocument document ∧
      stored jobPath (after ⟨jobDocument, 7⟩ (annotationPatch "owner" (some "sales"))) jobPath
        = some document) ∧
    (∃ document written, StatusWritten running [versionPath] ordersDocument document ∧
      stored ordersPath (after ⟨ordersDocument, 7⟩ (statusPatch running)) ordersPath = some document ∧
      written.phase = some StreamPhase.running ∧
      StreamStatus.decode (looseStatus.mergePatch running) = .ok written) ∧
    ∃ document written, StatusWritten ready [versionPath] classDocument document ∧
      stored classPath (after ⟨classDocument, 7⟩ (statusPatch ready)) classPath = some document ∧
      written.phase = some ClassPhase.ready ∧
      ClassStatus.decode (Json.null.mergePatch ready) = .ok written := by
  intro ordersPath jobPath classPath
  obtain ⟨ordersNamed, jobNamed, classNamed⟩ := named
  obtain ⟨removed, replaced, restated, classRestated⟩ := readable
  obtain ⟨-, resources, -, streams, -⟩ := patches_mean_what_memory_does (merges ordersNamed.plain)
  obtain ⟨-, -, jobs, -, -⟩ := patches_mean_what_memory_does (merges jobNamed.plain)
  obtain ⟨-, -, -, -, classes⟩ := patches_mean_what_memory_does (merges classNamed.plain)
  refine ⟨?_, ?_, ?_, ?_⟩
  · exact resources tables "streams" "orders" "owner" none _ _ ordersDocument orders memory
      ⟨rfl, by decide, rfl⟩ rfl rfl (patch_ok ordersNamed (.inl rfl) removed)
  · have done : (server jobPath).patch Job.decode .jobs "streams" "orders" ""
        (annotationPatch "owner" (some "sales")) ⟨jobDocument, 7⟩ = (.ok (), _) :=
      patch_ok jobNamed (.inl rfl) replaced
    obtain ⟨document, _, _, _, written, served, -⟩ := jobs "streams" "orders" "owner" (some "sales") _ _
      jobDocument job memory ⟨rfl, by decide, rfl⟩ rfl rfl done
    exact ⟨document, written, served.kept⟩
  · have prepared : handler.prepareStreamStatus ⟨tables, "streams", "orders"⟩ .running [] memory
        = (.ok (some running), memory) := rfl
    have done : (server ordersPath).patch Resource.decode tables "streams" "orders" "/status"
        (statusPatch running) ⟨ordersDocument, 7⟩ = (.ok (), _) :=
      patch_ok ordersNamed (.inr rfl) restated
    obtain ⟨-, alike⟩ := streams _ handler _ _ _ _ _ _ prepared
    obtain ⟨document, _, _, _, status, written, served, -, -, phase, merged, -⟩ :=
      alike _ _ ordersDocument orders memory ⟨rfl, by decide, rfl⟩ rfl rfl done
    exact ⟨document, status, written, served.kept, phase, merged⟩
  · have prepared : handler.prepareClassStatus ⟨"streams", "tables"⟩ .ready [] memory
        = (.ok (some ready), memory) := rfl
    have done : (server classPath).patch Resource.decode StreamClass.coordinates "streams" "tables"
        "/status" (statusPatch ready) ⟨classDocument, 7⟩ = (.ok (), _) :=
      patch_ok classNamed (.inr rfl) classRestated
    obtain ⟨-, alike⟩ := classes _ handler _ _ _ _ _ _ prepared
    obtain ⟨document, _, _, _, status, written, served, -, -, phase, merged, -⟩ :=
      alike _ _ classDocument tableClass memory ⟨rfl, by decide, rfl⟩ rfl rfl done
    exact ⟨document, status, written, served.kept, phase, merged⟩

end Orders

end Shelf

end StreamOperator
