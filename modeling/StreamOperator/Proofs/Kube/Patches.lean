import StreamOperator.Cluster.Server
import StreamOperator.Proofs.Handler.Templates
import StreamOperator.Proofs.Json.Faithful
import StreamOperator.Proofs.Json.MergePatch
import StreamOperator.Proofs.Status.Stability

/-!
# Reading what was patched

What is read of a document once it was patched, from what was read of it before. Resources and jobs are
documents with metadata (`Decoder.KeepsMetadata`): a patch of an annotation is read as the annotation set
or removed, and all else as before. A status with a phase is read from whatever it is merged into.
-/

set_option autoImplicit false

namespace StreamOperator

/-- A patch that sets the version. -/
def versionPatch (version : String) : Json :=
  .obj [("metadata", .obj [("resourceVersion", .str version)])]

/-! ## Statuses -/

/-- A status with a phase is read from what a merge patch makes of any value with it. -/
theorem Status.decode_mergePatch {P : Type} {decodePhase : Decoder P} {encodePhase : P → Json}
    (inverse : ∀ p, Decode.optional decodePhase (encodePhase p) = .ok (some p))
    (texts : ∀ p, ∃ text, encodePhase p = .str text) (name condition : String) {s : Status P}
    (entered : s.phase.isSome = true) {target : Json} (sorted : Entries.Sorted target.fieldsOf) :
    Record.struct name (Status.record decodePhase condition) (target.mergePatch (s.encode encodePhase))
      = .ok s := by
  obtain ⟨phase, conditions⟩ := s
  obtain ⟨phase, rfl⟩ := Option.isSome_iff_exists.1 entered
  obtain ⟨text, written⟩ := texts phase
  let fields := Entries.insert "phase" (encodePhase phase)
    (Entries.insert "conditions" (Encode.list Condition.encode conditions) target.fieldsOf)
  have merged : target.mergePatch (Status.encode encodePhase ⟨some phase, conditions⟩) = .obj fields := by
    simp only [fields, Status.encode, Encode.optional, Encode.list, written, Json.mergePatch,
      Json.mergeFields]
  have distinct : (fields.map Prod.fst).Nodup :=
    (Entries.sorted_insert (Entries.sorted_insert sorted)).nodup
  rw [merged]
  have differ : "conditions" ≠ "phase" := by decide
  refine Record.Reads.struct ?_ name
  refine .and ?_ ((Entries.get?_insert_of_ne differ _ _).trans (Entries.get?_insert_self _ _ _))
    (Decode.items_map (Condition.decode_encode condition) conditions)
  exact .and (.const _ distinct) (Entries.get?_insert_self _ _ _) (inverse phase)

theorem Condition.isCanonical_encode (c : Condition) : c.encode.isCanonical = true := by
  have texts : ∀ text, (Encode.optional Json.str text).isCanonical = true := by
    rintro (_ | _) <;> rfl
  have keys : ["lastTransitionTime", "message", "reason", "status", "type"].Pairwise (· < ·) := by decide
  refine Json.isCanonical_obj_iff.2 ⟨List.pairwise_map.1 keys, ?_⟩
  simp [texts, Json.isCanonical]

theorem Status.isCanonical_encode {P : Type} {encodePhase : P → Json}
    (texts : ∀ p, ∃ text, encodePhase p = .str text) (s : Status P) :
    (s.encode encodePhase).isCanonical = true := by
  obtain ⟨phase, conditions⟩ := s
  have phases : (Encode.optional encodePhase phase).isCanonical = true := by
    cases phase with
    | none => rfl
    | some p =>
      obtain ⟨text, written⟩ := texts p
      rw [Encode.optional, written]
      rfl
  have listed : (Encode.list Condition.encode conditions).isCanonical = true :=
    Json.areCanonical_iff.2 (List.forall_mem_map.2 fun c _ => c.isCanonical_encode)
  have keys : ["conditions", "phase"].Pairwise (· < ·) := by decide
  exact Json.isCanonical_obj_iff.2 ⟨List.pairwise_map.1 keys,
    List.forall_mem_cons.2 ⟨listed, List.forall_mem_singleton.2 phases⟩⟩

/-! ## Metadata -/

/-- Texts by name that were read stand in the object as they were read. -/
theorem Decode.eq_map_of_entries {fields : List (String × Json)} {entries : List (String × String)}
    (read : Decode.entries Decode.text fields = .ok entries) :
    fields = entries.map fun entry => (entry.1, Json.str entry.2) := by
  induction fields generalizing entries with
  | nil =>
    cases read
    rfl
  | cons head rest ih =>
    obtain ⟨key, value⟩ := head
    cases value with
    | str text =>
      obtain ⟨others, later, rfl⟩ := Except.map_eq_ok.1 read
      rw [ih later]
      rfl
    | _ => cases read

namespace Metadata

variable {m : Metadata} {values values' : String → Option Json}

/-- Each part of the metadata is read under its key. -/
structure ReadFrom (values : String → Option Json) (m : Metadata) : Prop where
  name : (Field.optional "name" Decode.text).read values = .ok m.name
  generateName : (Field.optional "generateName" Decode.text).read values = .ok m.generateName
  space : (Field.optional "namespace" Decode.text).read values = .ok m.space
  uid : (Field.optional "uid" Decode.text).read values = .ok m.uid
  version : (Field.optional "resourceVersion" Decode.text).read values = .ok m.resourceVersion
  generation : (Field.optional "generation" Decode.signed64).read values = .ok m.generation
  creation : (Field.optional "creationTimestamp" Instant.decode).read values = .ok m.creationTimestamp
  deletion : (Field.optional "deletionTimestamp" Instant.decode).read values = .ok m.deletionTimestamp
  labels : (Field.optional "labels" (Decode.dictionary Decode.text)).read values = .ok m.labels
  annotations :
    (Field.optional "annotations" (Decode.dictionary Decode.text)).read values = .ok m.annotations
  finalizers : (Field.optional "finalizers" (Decode.list Decode.text)).read values = .ok m.finalizers
  others : .ofValues otherNames values = m.others

theorem build_eq_ok_iff : record.build values = .ok m ↔ m.ReadFrom values := by
  -- The last field is the outermost one.
  simp only [record, Record.build_andOthers_eq_ok_iff, Record.build_and_eq_ok_iff, Record.build_const]
  constructor
  · rintro ⟨_, ⟨_, _, ⟨_, _, ⟨_, _, ⟨_, _, ⟨_, _, ⟨_, _, ⟨_, _, ⟨_, _, ⟨_, _, ⟨_, _, ⟨_, _, start, name, rfl⟩,
      generateName, rfl⟩, space, rfl⟩, uid, rfl⟩, version, rfl⟩, generation, rfl⟩, creation, rfl⟩,
      deletion, rfl⟩, labels, rfl⟩, annotations, rfl⟩, finalizers, rfl⟩, rfl⟩
    obtain rfl := Except.ok.inj start
    exact ⟨name, generateName, space, uid, version, generation, creation, deletion, labels, annotations,
      finalizers, rfl⟩
  · intro read
    exact ⟨_, ⟨_, _, ⟨_, _, ⟨_, _, ⟨_, _, ⟨_, _, ⟨_, _, ⟨_, _, ⟨_, _, ⟨_, _, ⟨_, _, ⟨_, _, rfl, read.name,
      rfl⟩, read.generateName, rfl⟩, read.space, rfl⟩, read.uid, rfl⟩, read.version, rfl⟩, read.generation,
      rfl⟩, read.creation, rfl⟩, read.deletion, rfl⟩, read.labels, rfl⟩, read.annotations, rfl⟩,
      read.finalizers, rfl⟩, congrArg _ read.others⟩

/-- With another version and other annotations everything else is read as before. -/
theorem ReadFrom.reissue (read : m.ReadFrom values)
    (same : ∀ key, key ≠ "resourceVersion" → key ≠ "annotations" → values' key = values key)
    {version : Option String} {d : Option (Dictionary String)}
    (versions : (Field.optional "resourceVersion" Decode.text).read values' = .ok version)
    (annotations : (Field.optional "annotations" (Decode.dictionary Decode.text)).read values' = .ok d) :
    ({ m with resourceVersion := version, annotations := d } : Metadata).ReadFrom values' where
  name := (Field.read_congr (same _ (by decide) (by decide))).trans read.name
  generateName := (Field.read_congr (same _ (by decide) (by decide))).trans read.generateName
  space := (Field.read_congr (same _ (by decide) (by decide))).trans read.space
  uid := (Field.read_congr (same _ (by decide) (by decide))).trans read.uid
  version := versions
  generation := (Field.read_congr (same _ (by decide) (by decide))).trans read.generation
  creation := (Field.read_congr (same _ (by decide) (by decide))).trans read.creation
  deletion := (Field.read_congr (same _ (by decide) (by decide))).trans read.deletion
  labels := (Field.read_congr (same _ (by decide) (by decide))).trans read.labels
  annotations := annotations
  finalizers := (Field.read_congr (same _ (by decide) (by decide))).trans read.finalizers
  others := by
    have apart : ∀ key ∈ otherNames, key ≠ "resourceVersion" ∧ key ≠ "annotations" := by decide
    rw [← read.others]
    exact OtherFields.ofValues_congr distinct_otherNames fun key named =>
      same key (apart key named).1 (apart key named).2

theorem decode_eq_ok_iff {fields : List (String × Json)} : decode (.obj fields) = .ok m ↔
    (∀ entry ∈ fields, record.check entry.1 entry.2 = .ok ()) ∧
      m.ReadFrom fun key => Entries.get? key fields := by
  rw [← build_eq_ok_iff]
  exact Record.ofFields_eq_ok_iff

/-- The annotations that were read are what stands among the metadata. -/
theorem fieldsOf_annotations {d : Option (Dictionary String)}
    (read : (Field.optional "annotations" (Decode.dictionary Decode.text)).read values = .ok d)
    (sorted : Entries.Sorted ((values "annotations").getD .null).fieldsOf) :
    ((values "annotations").getD .null).fieldsOf
      = (d.getD .empty).toList.map fun entry => (entry.1, Json.str entry.2) := by
  have stands : (Field.optional "annotations" (Decode.dictionary Decode.text)).name = "annotations" := rfl
  rw [Field.read, stands] at read
  cases found : values "annotations" with
  | none =>
    rw [found] at read
    cases read
    rfl
  | some value =>
    rw [found] at read sorted
    cases value with
    | null =>
      cases read
      rfl
    | obj fields =>
      obtain ⟨_, inside, rfl⟩ := Except.map_eq_ok.1 read
      obtain ⟨entries, listed, rfl⟩ := Except.map_eq_ok.1 inside
      obtain rfl := Decode.eq_map_of_entries listed
      have ordered := List.pairwise_map.1 sorted
      exact congrArg (List.map _) (Entries.ofList_of_sorted ordered).symm
    | _ => cases read

/-- A patch of an annotation is read as the annotation set or removed. -/
theorem decode_annotationChange {fields : List (String × Json)} (read : decode (.obj fields) = .ok m)
    (sorted : Entries.Sorted ((Entries.get? "annotations" fields).getD .null).fieldsOf) (key : String)
    (value : Option String) :
    decode ((Json.obj fields).mergePatch
      (.obj [("annotations", .obj [(key, Encode.optional .str value)])])) = .ok (m.annotate key value) := by
  obtain ⟨accepted, parts⟩ := decode_eq_ok_iff.1 read
  have before := fieldsOf_annotations parts.annotations sorted
  obtain ⟨d, annotated, patched⟩ : ∃ d : Dictionary String,
      m.annotate key value = { m with annotations := some d } ∧
      ((Entries.get? "annotations" fields).getD .null).mergePatch
        (.obj [(key, Encode.optional .str value)]) = Encode.dictionary .str d := by
    cases value with
    | none =>
      refine ⟨_, rfl, ?_⟩
      rw [Encode.optional, Json.mergePatch_removal, before, Entries.erase_map]
      rfl
    | some text =>
      refine ⟨_, rfl, ?_⟩
      rw [Encode.optional, Json.mergePatch_text, before, Entries.insert_map]
      rfl
  rw [Json.mergePatch_object, Json.field?, patched, annotated]
  have decoded := decode_dictionary d
  refine Record.ofFields_insert read (Except.map_eq_ok.2 ⟨_, decoded, rfl⟩) (build_eq_ok_iff.2 ?_)
  refine parts.reissue (fun k _ other => Entries.get?_insert_of_ne other _ _) ?_ ?_
  · exact (Field.read_congr (Entries.get?_insert_of_ne (by decide) _ _)).trans parts.version
  · exact (Field.read_of_found (Entries.get?_insert_self _ _ _)).trans decoded

/-- A patch of the version is read as the new version. -/
theorem decode_versionChange {fields : List (String × Json)} (read : decode (.obj fields) = .ok m)
    (version : String) : decode ((Json.obj fields).mergePatch (.obj [("resourceVersion", .str version)]))
      = .ok { m with resourceVersion := some version } := by
  obtain ⟨-, parts⟩ := decode_eq_ok_iff.1 read
  rw [Json.mergePatch_text]
  refine Record.ofFields_insert read rfl (build_eq_ok_iff.2 ?_)
  refine parts.reissue (fun k other _ => Entries.get?_insert_of_ne other _ _) ?_ ?_
  · exact (Field.read_of_found (Entries.get?_insert_self _ _ _)).trans rfl
  · exact (Field.read_congr (Entries.get?_insert_of_ne (by decide) _ _)).trans parts.annotations

theorem exists_obj_of_decode {value : Json} (read : decode value = .ok m) :
    ∃ fields, value = .obj fields := by
  cases value with
  | obj fields => exact ⟨fields, rfl⟩
  | _ => cases read

end Metadata

/-! ## Documents with metadata -/

/-- The fields of the metadata of a document; there are none if it has no metadata. -/
def Json.metadataFields (document : Json) : List (String × Json) :=
  ((document.field? "metadata").getD .null).fieldsOf

/-- What is decoded has metadata, and with other metadata all else is decoded as before. -/
structure Decoder.KeepsMetadata {α : Type} (decode : Decoder α) (metadata : α → Metadata)
    (replace : α → Metadata → α) : Prop where
  metadata : ∀ document a, decode document = .ok a →
    Metadata.decode (.obj document.metadataFields) = .ok (metadata a)
  replaced : ∀ document a fields m, decode document = .ok a → Metadata.decode (.obj fields) = .ok m →
    decode (.obj (Entries.insert "metadata" (.obj fields) document.fieldsOf)) = .ok (replace a m)

namespace Decoder.KeepsMetadata

variable {α : Type} {decode : Decoder α} {metadata : α → Metadata} {replace : α → Metadata → α}
  {document : Json} {a : α}

/-- A patch of the metadata is read as it is read there. -/
theorem mergePatch (keeps : decode.KeepsMetadata metadata replace) (read : decode document = .ok a)
    {changes : List (String × Json)} {m : Metadata}
    (patched : Metadata.decode ((Json.obj document.metadataFields).mergePatch (.obj changes)) = .ok m) :
    decode (document.mergePatch (.obj [("metadata", .obj changes)])) = .ok (replace a m) := by
  rw [Json.mergePatch_object, Json.mergePatch]
  exact keeps.replaced document a _ m read patched

theorem annotationPatch (keeps : decode.KeepsMetadata metadata replace)
    (canonical : document.isCanonical = true) (read : decode document = .ok a) (key : String)
    (value : Option String) : decode (document.mergePatch (annotationPatch key value))
      = .ok (replace a ((metadata a).annotate key value)) := by
  have inside : ((document.field? "metadata").getD .null).isCanonical = true :=
    Json.isCanonical_field canonical "metadata"
  refine keeps.mergePatch read (Metadata.decode_annotationChange (keeps.metadata _ _ read) ?_ key value)
  rw [Json.metadataFields, Json.get?_fieldsOf]
  exact Json.sorted_fieldsOf (Json.isCanonical_field inside "annotations")

theorem versionPatch (keeps : decode.KeepsMetadata metadata replace) (read : decode document = .ok a)
    (version : String) : decode (document.mergePatch (versionPatch version))
      = .ok (replace a { metadata a with resourceVersion := some version }) :=
  keeps.mergePatch read (Metadata.decode_versionChange (keeps.metadata _ _ read) version)

end Decoder.KeepsMetadata

/-! ## Resources -/

namespace Resource

variable {r : Resource} {document : Json}

/-! ### Type names -/

section

variable {key : String} {version kind : Option String} {fields : List (String × Json)}

theorem takeTypes_cons (noVersion : key ≠ "apiVersion") (noKind : key ≠ "kind")
    (version kind : Option String) (value : Json) (rest : List (String × Json)) :
    takeTypes version kind ((key, value) :: rest) =
      ((takeTypes version kind rest).1, (key, value) :: (takeTypes version kind rest).2) := by
  rw [takeTypes]
  · exact fun _ same => noVersion (Prod.mk.inj same).1
  · exact fun _ same => noKind (Prod.mk.inj same).1

theorem sublist_takeTypes (version kind : Option String) (fields : List (String × Json)) :
    (takeTypes version kind fields).2.Sublist fields := by
  fun_induction takeTypes version kind fields with
  | case1 => exact .slnil
  | case2 _ _ _ ih | case4 _ _ _ ih => exact ih.cons _
  | case3 | case5 => exact List.sublist_cons_self _ _
  | case6 _ _ field _ _ _ _ _ taken ih =>
    rw [taken] at ih
    exact ih.cons_cons field

/-- Nothing is taken out under another key. -/
theorem get?_takeTypes (noVersion : key ≠ "apiVersion") (noKind : key ≠ "kind")
    (version kind : Option String) (fields : List (String × Json)) :
    Entries.get? key (takeTypes version kind fields).2 = Entries.get? key fields := by
  fun_induction takeTypes version kind fields with
  | case1 => rfl
  | case2 _ _ _ ih => exact ih.trans (if_neg noVersion.symm).symm
  | case3 => exact (if_neg noVersion.symm).symm
  | case4 _ _ _ ih => exact ih.trans (if_neg noKind.symm).symm
  | case5 => exact (if_neg noKind.symm).symm
  | case6 _ _ field _ _ _ _ _ taken ih =>
    rw [taken] at ih
    rw [Entries.get?, Entries.get?, ih]

/-- The type names are taken out in the same way when a value is put in under another key. -/
theorem takeTypes_insert (sorted : Entries.Sorted fields) (noVersion : key ≠ "apiVersion")
    (noKind : key ≠ "kind") (version kind : Option String) (value : Json) :
    takeTypes version kind (Entries.insert key value fields) =
      ((takeTypes version kind fields).1, Entries.insert key value (takeTypes version kind fields).2) := by
  induction fields generalizing version kind with
  | nil => exact takeTypes_cons noVersion noKind _ _ _ _
  | cons head rest ih =>
    obtain ⟨k, v⟩ := head
    obtain ⟨above, others⟩ := List.pairwise_cons.1 sorted
    by_cases below : key < k
    · -- The value comes first, before the type names and after.
      have first : ∀ entry ∈ (k, v) :: rest, key < entry.1 :=
        List.forall_mem_cons.2 ⟨below, fun entry member => String.lt_trans below (above entry member)⟩
      rw [Entries.insert_of_below first, takeTypes_cons noVersion noKind, Entries.insert_of_below
        fun entry member => first entry ((sublist_takeTypes version kind _).mem member)]
    by_cases same : key = k
    · subst same
      rw [takeTypes_cons noVersion noKind]
      simp only [Entries.insert, if_pos, takeTypes_cons noVersion noKind]
    have later : ∀ entries : List (String × Json),
        Entries.insert key value ((k, v) :: entries) = (k, v) :: Entries.insert key value entries :=
      fun _ => (if_neg same).trans (if_neg below)
    rw [later]
    by_cases isVersion : k = "apiVersion"
    · subst isVersion
      cases version with
      | some _ => rfl
      | none =>
        cases v with
        | str text => exact ih others (some text) kind
        | _ => rfl
    by_cases isKind : k = "kind"
    · subst isKind
      cases kind with
      | some _ => rfl
      | none =>
        cases v with
        | str text => exact ih others version (some text)
        | _ => rfl
    rw [takeTypes_cons isVersion isKind, takeTypes_cons isVersion isKind, ih others, later]

end

/-! ### Reading -/

/-- The field of the metadata, which may be absent. -/
def metadataField : Field Metadata := .defaulted "metadata" Metadata.decode {}

theorem decode_eq_ok_iff {fields : List (String × Json)} : decode (.obj fields) = .ok r ↔
    metadataField.read (fun key => Entries.get? key fields) = .ok r.metadata ∧
      r.types = (takeTypes none none (Entries.erase "metadata" fields)).1 ∧
      r.data = .ofList (takeTypes none none (Entries.erase "metadata" fields)).2 := by
  have made : decode (.obj fields) = (do
      let metadata ← metadataField.read fun key => Entries.get? key fields
      return ⟨(takeTypes none none (Entries.erase "metadata" fields)).1, metadata,
        .ofList (takeTypes none none (Entries.erase "metadata" fields)).2⟩) := by
    rw [Field.read]
    cases found : Entries.get? "metadata" fields <;>
      simp only [decode, metadataField, Field.defaulted, found]
  rw [made, Except.bind_eq_ok]
  constructor
  · rintro ⟨m, read, made⟩
    obtain rfl := Except.ok.inj made
    exact ⟨read, rfl, rfl⟩
  · rintro ⟨read, types, data⟩
    refine ⟨_, read, ?_⟩
    obtain ⟨_, m, _⟩ := r
    obtain ⟨rfl, rfl⟩ := And.intro types data
    rfl

theorem keepsMetadata : decode.KeepsMetadata Resource.metadata fun r m => { r with metadata := m } where
  metadata document r read := by
    cases document with
    | obj fields =>
      obtain ⟨found, -, -⟩ := decode_eq_ok_iff.1 read
      rw [Json.metadataFields, Json.field?]
      cases stands : Entries.get? "metadata" fields with
      | none =>
        rw [Field.read, metadataField, Field.defaulted, stands] at found
        exact found
      | some value =>
        rw [Field.read_of_found stands] at found
        obtain ⟨inside, rfl⟩ := Metadata.exists_obj_of_decode found
        exact found
    | _ => cases read
  replaced document r fields m read decoded := by
    cases document with
    | obj others =>
      obtain ⟨-, types, data⟩ := decode_eq_ok_iff.1 read
      refine decode_eq_ok_iff.2 ⟨(Field.read_of_found (Entries.get?_insert_self _ _ _)).trans decoded, ?_⟩
      simp only [Json.fieldsOf, Entries.erase_insert]
      exact ⟨types, data⟩
    | _ => cases read

/-- Of fields in order the types and the data are what taking the type names out leaves. -/
theorem decode_eq_ok_iff_of_sorted {fields : List (String × Json)} (sorted : Entries.Sorted fields) :
    decode (.obj fields) = .ok r ↔
      metadataField.read (fun key => Entries.get? key fields) = .ok r.metadata ∧
        takeTypes none none (Entries.erase "metadata" fields) = (r.types, r.data.toList) := by
  have left : Entries.Sorted (takeTypes none none (Entries.erase "metadata" fields)).2 :=
    (Entries.sorted_erase sorted).sublist (sublist_takeTypes none none _)
  have listed : r.data = .ofList (takeTypes none none (Entries.erase "metadata" fields)).2 ↔
      (takeTypes none none (Entries.erase "metadata" fields)).2 = r.data.toList := by
    refine ⟨fun data => ?_, fun data => ?_⟩
    · rw [data]
      exact (Entries.ofList_of_sorted left).symm
    · refine Dictionary.ext_get? fun key => ?_
      exact (congrArg (Entries.get? key) data).symm.trans (Entries.get?_ofList left.nodup key).symm
  rw [decode_eq_ok_iff, listed, Prod.ext_iff, @eq_comm _ r.types]

/-- The status of a resource is what its document says. -/
theorem get?_status (canonical : document.isCanonical = true) (read : decode document = .ok r) :
    r.data.get? "status" = document.field? "status" := by
  cases document with
  | obj fields =>
    have sorted : Entries.Sorted fields := Json.sorted_fieldsOf canonical
    obtain ⟨-, taken⟩ := (decode_eq_ok_iff_of_sorted sorted).1 read
    have found : Entries.get? "status" (takeTypes none none (Entries.erase "metadata" fields)).2 = _ :=
      get?_takeTypes (by decide) (by decide) none none _
    rw [taken] at found
    exact found.trans (Entries.get?_erase_of_ne (by decide) _)
  | _ => cases read

/-- A status that is put in is read as it is, and all else as before. -/
theorem decode_insert_status {fields : List (String × Json)} (read : decode (.obj fields) = .ok r)
    (sorted : Entries.Sorted fields) (value : Json) :
    decode (.obj (Entries.insert "status" value fields))
      = .ok { r with data := r.data.insert "status" value } := by
  obtain ⟨metadata, taken⟩ := (decode_eq_ok_iff_of_sorted sorted).1 read
  refine (decode_eq_ok_iff_of_sorted (Entries.sorted_insert sorted)).2 ⟨?_, ?_⟩
  · exact (Field.read_congr (Entries.get?_insert_of_ne (by decide) _ _)).trans metadata
  · rw [Entries.erase_insert_of_ne sorted (by decide),
      takeTypes_insert (Entries.sorted_erase sorted) (by decide) (by decide), taken]
    rfl

/-- A patch of the status is read as the status merged into the one before. -/
theorem decode_statusPatch (canonical : document.isCanonical = true) (read : decode document = .ok r)
    {status : Json} (present : status ≠ .null) : decode (document.mergePatch (statusPatch status)) = .ok
      { r with
        data := r.data.insert "status" (((r.data.get? "status").getD .null).mergePatch status) } := by
  rw [statusPatch, Json.mergePatch_field present, get?_status canonical read]
  cases document with
  | obj fields => exact decode_insert_status read (Json.sorted_fieldsOf canonical) _
  | _ => cases read

end Resource

/-! ## Jobs -/

namespace Job

/-- The parts of a job are read under their keys. -/
theorem build_eq_ok_iff {values : String → Option Json} {j : Job} : record.build values = .ok j ↔
    (Field.defaulted "apiVersion" (fixedText apiVersion) ()).read values = .ok () ∧
      (Field.defaulted "kind" (fixedText kind) ()).read values = .ok () ∧
      (Field.orElse "metadata" Metadata.decode {}).read values = .ok j.metadata ∧
      (Field.optional "spec" JobSpec.decode).read values = .ok j.spec ∧
      (Field.optional "status" JobStatus.decode).read values = .ok j.status := by
  simp only [record, Record.build_and_eq_ok_iff, Record.build_const]
  constructor
  · rintro ⟨_, _, ⟨_, _, ⟨_, _, ⟨_, _, ⟨_, _, start, version, rfl⟩, kind, rfl⟩, metadata, rfl⟩, spec, rfl⟩,
      status, rfl⟩
    obtain rfl := Except.ok.inj start
    exact ⟨version, kind, metadata, spec, status⟩
  · rintro ⟨version, kind, metadata, spec, status⟩
    exact ⟨_, _, ⟨_, _, ⟨_, _, ⟨_, _, ⟨_, _, rfl, version, rfl⟩, kind, rfl⟩, metadata, rfl⟩, spec, rfl⟩,
      status, rfl⟩

theorem keepsMetadata : decode.KeepsMetadata Job.metadata fun j m => { j with metadata := m } where
  metadata document j read := by
    cases document with
    | obj fields =>
      obtain ⟨-, -, found, -, -⟩ := build_eq_ok_iff.1 (Record.ofFields_eq_ok_iff.1 read).2
      rw [Json.metadataFields, Json.field?]
      cases stands : Entries.get? "metadata" fields with
      | none =>
        rw [Field.read, Field.orElse, Field.defaulted, stands] at found
        exact found
      | some value =>
        rw [Field.read_of_found stands] at found
        obtain ⟨m, inside, same⟩ := Except.map_eq_ok.1 found
        cases value with
        | null =>
          cases inside
          rw [← same]
          rfl
        | obj others =>
          obtain ⟨_, decoded, rfl⟩ := Except.map_eq_ok.1 inside
          rw [← same]
          exact decoded
        | _ =>
          obtain ⟨_, inside, -⟩ := Except.map_eq_ok.1 inside
          cases inside
    | _ => cases read
  replaced document j fields m read decoded := by
    cases document with
    | obj others =>
      have written : (Field.orElse "metadata" Metadata.decode {}).decode (.obj fields) = .ok m :=
        Except.map_eq_ok.2 ⟨some m, Except.map_eq_ok.2 ⟨m, decoded, rfl⟩, rfl⟩
      have accepted : record.check "metadata" (.obj fields) = .ok () :=
        Except.map_eq_ok.2 ⟨m, written, rfl⟩
      have other : ∀ key, key ≠ "metadata" → Entries.get? key
          (Entries.insert "metadata" (Json.obj fields) others) = Entries.get? key others := fun _ differ =>
        Entries.get?_insert_of_ne differ _ _
      obtain ⟨version, kind, -, spec, status⟩ := build_eq_ok_iff.1 (Record.ofFields_eq_ok_iff.1 read).2
      exact Record.ofFields_insert read accepted (build_eq_ok_iff.2
        ⟨(Field.read_congr (other _ (by decide))).trans version,
          (Field.read_congr (other _ (by decide))).trans kind,
          (Field.read_of_found (Entries.get?_insert_self _ _ _)).trans written,
          (Field.read_congr (other _ (by decide))).trans spec,
          (Field.read_congr (other _ (by decide))).trans status⟩)
    | _ => cases read

end Job

end StreamOperator
