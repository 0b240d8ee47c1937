import StreamOperator.Proofs.Handler.Effects
import StreamOperator.Proofs.Json.Record

/-!
# Writes and what is read of a resource

A write of a status or of an annotation leaves almost everything of a resource (`Resource.Rewritten`).
Even where the resource is a job template, the same job is built from it afterwards, or the same fault
found (`Handler.prepareJob_fst`): the version and the annotations of written metadata are always read
back, and a template has no status.
-/

set_option autoImplicit false

namespace StreamOperator

section

variable {ε α β γ : Type} {x : Except ε α} {f : α → Except ε γ}

theorem Except.bind_eq_of_eq {y : Except ε α} {g : α → Except ε γ} (first : x = y)
    (next : ∀ a, f a = g a) : x >>= f = y >>= g := by
  rw [first, funext next]

theorem Except.bind_eq_of_ok {y : Except ε β} {g : β → Except ε γ} {a : α} {b : β} (first : x = .ok a)
    (first' : y = .ok b) (next : f a = g b) : x >>= f = y >>= g := by
  rw [first, first']
  exact next

end

/-! ## Metadata -/

namespace Metadata

theorem distinct_otherNames : otherNames.Nodup := by decide

theorem field?_encode (m : Metadata) (key : String) : m.encode.field? key =
    if key ∈ otherNames then m.others.values.get? key else (Entries.get? key m.ownFields).join :=
  m.others.field?_ofFields ["name", "generateName", "namespace", "uid", "resourceVersion", "generation",
    "creationTimestamp", "deletionTimestamp", "labels", "annotations", "finalizers"] rfl (by decide) key

theorem exists_encode (m : Metadata) :
    ∃ written, m.encode = .obj written ∧ Entries.Sorted written :=
  ⟨_, rfl, Entries.sorted_ofList _⟩

theorem decode_entries (entries : List (String × String)) :
    Decode.entries Decode.text (entries.map fun entry => (entry.1, Json.str entry.2)) = .ok entries := by
  induction entries with
  | nil => rfl
  | cons head rest ih =>
    simp only [List.map_cons, Decode.entries, ih]
    rfl

/-- Labels and annotations are read back as they were written. -/
theorem decode_dictionary (d : Dictionary String) :
    Decode.optional (Decode.dictionary Decode.text) (Encode.dictionary Json.str d) = .ok (some d) := by
  have ordered : Dictionary.ofList d.toList = d :=
    Dictionary.ext_get? fun key => Entries.get?_ofList d.sorted.nodup key
  show some <$> Dictionary.ofList <$> Decode.entries Decode.text _ = _
  rw [decode_entries]
  exact congrArg (fun d => Except.ok (some d)) ordered

/-- A version that was written is read. -/
theorem decode_version (m : Metadata) {value : Json}
    (found : m.encode.field? "resourceVersion" = some value) :
    ∃ version, Decode.optional Decode.text value = .ok version := by
  rw [field?_encode, if_neg (by decide)] at found
  obtain ⟨version, -, rfl⟩ : ∃ version, m.resourceVersion = some version ∧ Json.str version = value := by
    simpa [ownFields, Entries.get?] using found
  exact ⟨some version, rfl⟩

/-- Annotations that were written are read. -/
theorem decode_annotations (m : Metadata) {value : Json}
    (found : m.encode.field? "annotations" = some value) :
    ∃ annotations, Decode.optional (Decode.dictionary Decode.text) value = .ok annotations := by
  rw [field?_encode, if_neg (by decide)] at found
  obtain ⟨d, -, rfl⟩ : ∃ d, m.annotations = some d ∧ Encode.dictionary Json.str d = value := by
    simpa [ownFields, Entries.get?] using found
  exact ⟨some d, decode_dictionary d⟩

/-- The metadata are the same but for the version and the annotations. -/
def Reissued (m m' : Metadata) : Prop :=
  m' = { m with resourceVersion := m'.resourceVersion, annotations := m'.annotations }

namespace Reissued

variable {m m' : Metadata}

theorem refl (m : Metadata) : m.Reissued m := rfl

theorem space (reissued : m.Reissued m') : m'.space = m.space := by rw [reissued]

theorem nameAny (reissued : m.Reissued m') : m'.nameAny = m.nameAny := by
  rw [reissued]
  rfl

/-- The other fields are written as before. -/
theorem field? (reissued : m.Reissued m') {key : String} (version : key ≠ "resourceVersion")
    (annotations : key ≠ "annotations") : m'.encode.field? key = m.encode.field? key := by
  rw [field?_encode, field?_encode, reissued]
  refine ite_congr rfl (fun _ => rfl) fun _ => congrArg Option.join ?_
  iterate 4 refine ite_congr rfl (fun _ => rfl) fun _ => ?_
  refine (if_neg version.symm).trans (Eq.trans ?_ (if_neg version.symm).symm)
  iterate 4 refine ite_congr rfl (fun _ => rfl) fun _ => ?_
  exact (if_neg annotations.symm).trans (if_neg annotations.symm).symm

/-- The metadata are refused as before. -/
theorem refusal? (reissued : m.Reissued m') (key : String) :
    (m'.encode.field? key).bind (record.refusal? key)
      = (m.encode.field? key).bind (record.refusal? key) := by
  by_cases version : key = "resourceVersion"
  · subst version
    have accepted : ∀ m : Metadata, (m.encode.field? "resourceVersion").bind
        (record.refusal? "resourceVersion") = none := fun m =>
      Option.bind_eq_none_iff.2 fun _ found => Record.refusal?_eq_none rfl (m.decode_version found)
    rw [accepted, accepted]
  by_cases annotations : key = "annotations"
  · subst annotations
    have accepted : ∀ m : Metadata, (m.encode.field? "annotations").bind
        (record.refusal? "annotations") = none := fun m =>
      Option.bind_eq_none_iff.2 fun _ found => Record.refusal?_eq_none rfl (m.decode_annotations found)
    rw [accepted, accepted]
  rw [reissued.field? version annotations]

/-- The name is read as before, or the metadata are refused for the same reason. -/
theorem nameAny_decode (reissued : m.Reissued m') :
    Metadata.nameAny <$> decode m'.encode = Metadata.nameAny <$> decode m.encode := by
  obtain ⟨written, encoded, sorted⟩ := m.exists_encode
  obtain ⟨written', encoded', sorted'⟩ := m'.exists_encode
  have found : ∀ key, Entries.get? key written = m.encode.field? key := fun _ => by rw [encoded]; rfl
  have found' : ∀ key, Entries.get? key written' = m'.encode.field? key := fun _ => by
    rw [encoded']
    rfl
  have same : ∀ {β : Type} (name : String) (decode : Decoder β), name ≠ "resourceVersion" →
      name ≠ "annotations" → (Field.optional name decode).read (fun key => m'.encode.field? key)
        = (Field.optional name decode).read (fun key => m.encode.field? key) :=
    fun _ _ version annotations => Field.read_congr (reissued.field? version annotations)
  have version : ∀ m : Metadata, ∃ a, (Field.optional "resourceVersion" Decode.text).read
      (fun key => m.encode.field? key) = .ok a :=
    fun m => Field.exists_read (fun _ => m.decode_version) rfl
  have annotations : ∀ m : Metadata, ∃ a,
      (Field.optional "annotations" (Decode.dictionary Decode.text)).read
        (fun key => m.encode.field? key) = .ok a :=
    fun m => Field.exists_read (fun _ => m.decode_annotations) rfl
  obtain ⟨_, readVersion⟩ := version m
  obtain ⟨_, readVersion'⟩ := version m'
  obtain ⟨_, readAnnotations⟩ := annotations m
  obtain ⟨_, readAnnotations'⟩ := annotations m'
  rw [encoded, encoded']
  refine Record.map_ofFields_congr Metadata.nameAny sorted sorted' (fun key => ?_) ?_
  · rw [found, found', reissued.refusal? key]
  · -- The fields are read one after another; two of them may have changed and are read all the same.
    simp only [found, found', record, Record.build_andOthers, Record.build_and, Record.build_const,
      map_eq_pure_bind, bind_assoc, pure_bind]
    iterate 4 refine Except.bind_eq_of_eq (same _ _ (by decide) (by decide)) fun _ => ?_
    refine Except.bind_eq_of_ok readVersion' readVersion ?_
    iterate 4 refine Except.bind_eq_of_eq (same _ _ (by decide) (by decide)) fun _ => ?_
    refine Except.bind_eq_of_ok readAnnotations' readAnnotations ?_
    exact Except.bind_eq_of_eq (same _ _ (by decide) (by decide)) fun _ => rfl

end Reissued

end Metadata

/-! ## Resources -/

namespace Resource

/-- What a write of a status or an annotation leaves of a resource. -/
structure Rewritten (r r' : Resource) : Prop where
  types : r'.types = r.types
  metadata : r.metadata.Reissued r'.metadata
  data : ∀ key, key ≠ "status" → r'.data.get? key = r.data.get? key

theorem Rewritten.refl (r : Resource) : r.Rewritten r := ⟨rfl, .refl _, fun _ _ => rfl⟩

theorem rewritten_restated (r : Resource) (status : Json) (version : String) :
    r.Rewritten (Cluster.restated r status version) where
  types := rfl
  metadata := rfl
  data _ other := Dictionary.get?_insert_of_ne _ other _

theorem rewritten_annotated (r : Resource) (key : String) (value : Option String) (version : String) :
    r.Rewritten (Cluster.annotated r key value version) where
  types := rfl
  metadata := rfl
  data _ _ := rfl

theorem exists_encode (r : Resource) :
    ∃ written, r.encode = .obj written ∧ Entries.Sorted written :=
  ⟨_, rfl, Entries.sorted_ofList _⟩

/-- Under a key stands a field of the resource's own data, else its metadata or a name of its type. -/
theorem field?_encode (r : Resource) (key : String) : r.encode.field? key =
    (r.data.get? key).or (if key = "metadata" then some r.metadata.encode else
      r.types.bind fun t =>
        Entries.get? key [("apiVersion", Json.str t.apiVersion), ("kind", Json.str t.kind)]) := by
  unfold encode
  rw [Json.field?, List.append_cons, Entries.get?_ofList_append]
  congr 1
  cases r.types with
  | none =>
    rw [Entries.get?_ofList (by simp)]
    by_cases own : key = "metadata"
    · simp [own, Entries.get?]
    · simp [own, Ne.symm own, Entries.get?]
  | some t =>
    have distinct : ["apiVersion", "kind", "metadata"].Nodup := by decide
    rw [Entries.get?_ofList (by exact distinct)]
    by_cases own : key = "metadata"
    · simp [own, Entries.get?]
    · simp [own, Ne.symm own, Entries.get?]

namespace Rewritten

variable {r r' : Resource}

/-- What was not written is read as before. -/
theorem field? (rewritten : r.Rewritten r') {key : String} (status : key ≠ "status")
    (metadata : key ≠ "metadata") : r'.encode.field? key = r.encode.field? key := by
  rw [field?_encode, field?_encode, rewritten.data key status, rewritten.types, if_neg metadata,
    if_neg metadata]

/-- The metadata stand where they stood, and the same name is read there. -/
theorem exists_metadata (rewritten : r.Rewritten r') : ∃ value value',
    r.encode.field? "metadata" = some value ∧ r'.encode.field? "metadata" = some value' ∧
    Metadata.nameAny <$> Metadata.decode value' = Metadata.nameAny <$> Metadata.decode value := by
  rw [field?_encode, field?_encode, rewritten.data "metadata" (by decide)]
  cases r.data.get? "metadata" with
  | some value => exact ⟨value, value, rfl, rfl, rfl⟩
  | none => exact ⟨_, _, rfl, rfl, rewritten.metadata.nameAny_decode⟩

end Rewritten

end Resource

/-! ## Templates -/

namespace StreamTemplate

/-- What a job is built from, and the name by which a fault in it is told. -/
def content (t : StreamTemplate) : String × JobTemplate := (t.metadata.nameAny, t.template)

variable {r r' : Resource}

/-- A rewritten resource is as good or as bad a template as before. -/
theorem content_decode (rewritten : r.Rewritten r') :
    content <$> decode r'.encode = content <$> decode r.encode := by
  obtain ⟨written, encoded, sorted⟩ := r.exists_encode
  obtain ⟨written', encoded', sorted'⟩ := r'.exists_encode
  have found : ∀ key, Entries.get? key written = r.encode.field? key := fun _ => by rw [encoded]; rfl
  have found' : ∀ key, Entries.get? key written' = r'.encode.field? key := fun _ => by
    rw [encoded']
    rfl
  obtain ⟨value, value', stands, stands', name⟩ := rewritten.exists_metadata
  have spec : r'.encode.field? "spec" = r.encode.field? "spec" :=
    rewritten.field? (by decide) (by decide)
  rw [encoded, encoded']
  refine Record.map_ofFields_congr content sorted sorted' (fun key => ?_) ?_
  · rw [found, found']
    by_cases status : key = "status"
    · subst status
      have accepted : ∀ value, record.refusal? "status" value = none := fun _ => rfl
      simp only [Option.bind_eq_none_iff.2 fun _ _ => accepted _]
    by_cases metadata : key = "metadata"
    · subst metadata
      rw [stands, stands']
      have judged : record.check "metadata" value' = record.check "metadata" value := by
        show (fun _ => ()) <$> Metadata.decode value' = (fun _ => ()) <$> Metadata.decode value
        simpa only [Functor.map_map] using congrArg (fun read => (fun _ => ()) <$> read) name
      simp only [Option.bind_some, Record.refusal?, judged]
    rw [rewritten.field? status metadata]
  · have sameSpec : (Field.required "spec" decodeSpec).read (fun key => r'.encode.field? key)
        = (Field.required "spec" decodeSpec).read (fun key => r.encode.field? key) :=
      Field.read_congr spec
    have sameName : Metadata.nameAny <$> (Field.required "metadata" Metadata.decode).read
          (fun key => r'.encode.field? key)
        = Metadata.nameAny <$> (Field.required "metadata" Metadata.decode).read
          (fun key => r.encode.field? key) := by
      simpa only [Field.read, Field.required, stands, stands'] using name
    have byName : ∀ (metadata : Except DecodeError Metadata) (spec : Except DecodeError JobTemplate),
        (do let m ← metadata; let t ← spec; pure (content ⟨m, t⟩))
          = (do let name ← Metadata.nameAny <$> metadata; let t ← spec; pure (name, t)) := by
      intro metadata spec
      cases metadata <;> rfl
    simp only [found, found', record, Record.build_and, Record.build_const, map_eq_pure_bind, bind_assoc,
      pure_bind]
    rw [byName, byName, sameSpec, sameName]

/-- The same is parsed from a rewritten resource, as far as jobs are concerned. -/
theorem content_parse (rewritten : r.Rewritten r') :
    content <$> r'.parse decode = content <$> r.parse decode := by
  have read := content_decode rewritten
  unfold Resource.parse
  cases before : decode r.encode <;> cases after : decode r'.encode <;> rw [before, after] at read
  · cases read
    rfl
  · cases read
  · cases read
  · exact congrArg Except.ok (Except.ok.inj read)

end StreamTemplate

/-- A job is built from the content of its template alone. -/
theorem Job.build_congr {t t' : StreamTemplate} (same : t'.content = t.content) (v : StreamView)
    (c : Coordinates) (backfilling : Bool) (fields : List String) :
    Job.build t' v c backfilling fields = Job.build t v c backfilling fields := by
  obtain ⟨name, template⟩ := Prod.mk.inj same
  rw [Job.build, Job.build, name, template]

/-- Every resource stays where it is; at most statuses, annotations and versions are written. -/
structure Cluster.Renewed (k k' : Cluster) : Prop where
  failing : k'.failing = k.failing
  resources : ∀ key,
    Option.Rel Resource.Rewritten (Table.get? key k.resources) (Table.get? key k'.resources)

theorem Cluster.Renewed.of_resources {k k' : Cluster} (failing : k'.failing = k.failing)
    (same : k'.resources = k.resources) : k.Renewed k' where
  failing := failing
  resources key := by
    rw [same]
    cases Table.get? key k.resources with
    | none => exact .none
    | some r => exact .some (.refl r)

theorem Cluster.Renewed.refl (k : Cluster) : k.Renewed k := .of_resources rfl rfl

theorem Cluster.Edits.renewed {key : ResourceKey} {P : Resource → Resource → Prop} {k k' : Cluster}
    (edits : Edits key P k k') (rewrites : ∀ r r', P r r' → r.Rewritten r') : k.Renewed k' where
  failing := edits.failing
  resources := fun other => by
    by_cases same : other = key
    · subst same
      cases found : Table.get? other k.resources with
      | none =>
        rcases edits.resources with kept | ⟨r, r', found', -, -⟩
        · rw [kept, found]
          exact .none
        · rw [found] at found'
          cases found'
      | some r =>
        rcases edits.target found with kept | ⟨r', written, changed⟩
        · rw [kept]
          exact .some (.refl r)
        · rw [written]
          exact .some (rewrites r r' changed)
    · rw [edits.elsewhere same]
      cases Table.get? other k.resources with
      | none => exact .none
      | some r => exact .some (.refl r)

namespace Handler

variable {h : Handler Cluster} {k k' : Cluster} {d : Definition} {backfilling : Bool}

/-- The template that a stream refers to is found as before, as far as jobs are concerned. -/
theorem content_findTemplate (inMemory : h.api = Cluster.api) (renewed : k.Renewed k')
    (ref : TemplateRef) : StreamTemplate.content <$> (h.findTemplate d ref k').1
      = StreamTemplate.content <$> (h.findTemplate d ref k).1 := by
  unfold findTemplate
  rw [inMemory]
  show _ <$> ((Cluster.getResource _ _ _ >>= _) k').1 = _ <$> ((Cluster.getResource _ _ _ >>= _) k).1
  rw [Cluster.getResource_bind, Cluster.getResource_bind, renewed.failing]
  split
  · rfl
  · have stored := renewed.resources ⟨StreamTemplate.coordinates.plural, ref.space.getD d.space, ref.name⟩
    unfold Cluster.resource?
    generalize Table.get? _ k.resources = before at stored ⊢
    generalize Table.get? _ k'.resources = after at stored ⊢
    cases stored with
    | none => rfl
    | some rewritten =>
      simp only [Act.ofExcept_apply]
      exact StreamTemplate.content_parse rewritten

/-- The same job is prepared after writes of statuses and annotations, or it fails for the same reason. -/
theorem prepareJob_fst (inMemory : h.api = Cluster.api) (renewed : k.Renewed k') :
    (h.prepareJob d backfilling k').1 = (h.prepareJob d backfilling k).1 := by
  unfold prepareJob
  cases h.classes d.coordinates.kind with
  | none => rfl
  | some c =>
    cases d.view.templateRef? backfilling with
    | none => rfl
    | some ref =>
      have content := content_findTemplate (d := d) inMemory renewed ref
      simp only [Act.bind_apply]
      cases before : h.findTemplate d ref k with
      | mk found s =>
      cases after : h.findTemplate d ref k' with
      | mk found' s' =>
        rw [before, after] at content
        cases found <;> cases found'
        · cases content
          rfl
        · cases content
        · cases content
        · simp only [Act.ofExcept_apply]
          exact Job.build_congr (Except.ok.inj content) _ _ _ _

end Handler

/-! ## Definitions -/

/-- The definitions are of one type, and the second has been written in the meantime. -/
structure Definition.Rewritten (d d' : Definition) : Prop where
  coordinates : d'.coordinates = d.coordinates
  resource : d.resource.Rewritten d'.resource

namespace Definition.Rewritten

variable {d d' : Definition}

theorem refl (d : Definition) : d.Rewritten d := ⟨rfl, .refl _⟩

theorem space (rewritten : d.Rewritten d') : d'.space = d.space :=
  congrArg (·.getD defaultSpace) rewritten.resource.metadata.space

theorem id (rewritten : d.Rewritten d') : d'.id = d.id := rewritten.resource.metadata.nameAny

theorem reference (rewritten : d.Rewritten d') : d'.reference = d.reference := by
  have name : d'.resource.name = d.resource.name := rewritten.id
  rw [Definition.reference, rewritten.coordinates, rewritten.space, name, Definition.reference]

theorem jobKey (rewritten : d.Rewritten d') : d'.jobKey = d.jobKey := by
  rw [Definition.jobKey, rewritten.space, rewritten.id, Definition.jobKey]

theorem payload (rewritten : d.Rewritten d') : d'.payload = d.payload :=
  congrArg (·.getD Json.null) (rewritten.resource.data "spec" (by decide))

theorem checksum (rewritten : d.Rewritten d') : d'.checksum = d.checksum :=
  congrArg configurationChecksum rewritten.payload

/-- Apart from its metadata the stream looks as before. -/
theorem view (rewritten : d.Rewritten d') :
    d'.view = { d.view with metadata := d'.resource.metadata } := by
  simp only [Definition.view, Definition.template?, rewritten.id, rewritten.space, rewritten.payload,
    rewritten.coordinates]

/-- The same job is prepared. -/
theorem prepareJob {σ : Type} (rewritten : d.Rewritten d') (h : Handler σ) (backfilling : Bool) :
    h.prepareJob d' backfilling = h.prepareJob d backfilling := by
  simp only [Handler.prepareJob, Handler.findTemplate, rewritten.view, rewritten.coordinates,
    rewritten.space]
  rfl

/-- The same job is started. -/
theorem startJob {σ : Type} (rewritten : d.Rewritten d') (h : Handler σ) (backfilling : Bool) :
    h.startJob d' backfilling = h.startJob d backfilling := by
  simp only [Handler.startJob, rewritten.prepareJob, rewritten.space, rewritten.reference]

end Definition.Rewritten

end StreamOperator
