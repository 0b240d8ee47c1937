import StreamOperator.Proofs.Handler.Formats
import StreamOperator.Proofs.Handler.Templates
import StreamOperator.Proofs.Stream.BuiltJob
import StreamOperator.Proofs.Time.Timestamp
import StreamOperator.Stream.SqlServer

/-!
# The typed and the dynamic view of a stream

A stream from a SQL Server table has a type of its own, and as a resource of any kind it is a definition
like others. Written and read as such a resource it is the same stream: its names and annotations, its
payload and its templates are the same, so the operator starts the same jobs for it
(`typed_and_dynamic_views_agree`). Of its metadata the times are kept to the second, as they are written.
-/

set_option autoImplicit false

namespace StreamOperator

/-! ## Metadata -/

namespace Metadata

/-- The numbers fit a machine word and the times are on days of the calendar. -/
structure InRange (m : Metadata) : Prop where
  generation : ∀ n ∈ m.generation, -(Nat.pow 2 63) ≤ n ∧ n ≤ Nat.pow 2 63 - 1
  creation : ∀ t ∈ m.creationTimestamp, t.InCalendar
  deletion : ∀ t ∈ m.deletionTimestamp, t.InCalendar

/-- The metadata as they are written: with the times to the second. -/
def toSecond (m : Metadata) : Metadata :=
  { m with
    creationTimestamp := m.creationTimestamp.map Instant.toSecond
    deletionTimestamp := m.deletionTimestamp.map Instant.toSecond }

/-- The times are whole seconds. -/
structure Whole (m : Metadata) : Prop where
  creation : ∀ t ∈ m.creationTimestamp, t.nanoseconds = 0
  deletion : ∀ t ∈ m.deletionTimestamp, t.nanoseconds = 0

theorem toSecond_of_whole {m : Metadata} (whole : m.Whole) : m.toSecond = m := by
  have kept : ∀ x : Option Instant, (∀ t ∈ x, t.nanoseconds = 0) → x.map Instant.toSecond = x := by
    intro x whole
    cases x with
    | none => rfl
    | some t => exact congrArg some (Instant.toSecond_of_whole (whole t rfl))
  rw [toSecond, kept _ whole.creation, kept _ whole.deletion]

theorem encode_toSecond (m : Metadata) : m.toSecond.encode = m.encode := by
  simp only [encode, ownFields, toSecond, Option.map_map, Function.comp_def, Instant.text_toSecond]

/-- Metadata that were written are read back to the second. -/
theorem decode_encode (m : Metadata) (fits : m.InRange) : decode m.encode = .ok m.toSecond := by
  obtain ⟨written, encoded, sorted⟩ := m.exists_encode
  have stands : ∀ key, Entries.get? key written = m.encode.field? key := fun key => by
    rw [encoded]
    rfl
  have found : ∀ key, key ∉ otherNames →
      Entries.get? key written = (Entries.get? key m.ownFields).join := fun key unnamed => by
    rw [stands, field?_encode, if_neg unnamed]
  have kept : ∀ key ∈ otherNames, Entries.get? key written = m.others.values.get? key :=
    fun key named => by rw [stands, field?_encode, if_pos named]
  obtain ⟨name, generateName, space, uid, version, generation, creation, deletion, labels, annotations,
    finalizers, others⟩ := m
  rw [encoded]
  refine Record.Reads.object ?_ _
  -- There are three kinds of fields more than once; each of them is read back whatever its key is.
  have text : ∀ (key : String) (x : Option String), Entries.get? key written = x.map Json.str →
      (Field.optional key Decode.text).read (fun key => Entries.get? key written) = .ok x :=
    fun _ _ found => Field.read_of_written rfl (fun _ _ => rfl) found
  have dictionary : ∀ (key : String) (x : Option (Dictionary String)),
      Entries.get? key written = x.map (Encode.dictionary Json.str) →
      (Field.optional key (Decode.dictionary Decode.text)).read (fun key => Entries.get? key written)
        = .ok x :=
    fun _ _ found => Field.read_of_written rfl (fun d _ => decode_dictionary d) found
  have time : ∀ (key : String) (x : Option Instant), (∀ t ∈ x, t.InCalendar) →
      Entries.get? key written = x.map (fun t => Json.str t.text) →
      (Field.optional key Instant.decode).read (fun key => Entries.get? key written)
        = .ok (x.map Instant.toSecond) :=
    fun _ x known found => by
      have inverse : ∀ t ∈ x, Decode.optional Instant.decode (.str t.text) = .ok (some t.toSecond) :=
        fun t member => congrArg (some <$> ·) (Instant.decode_text (known t member))
      exact Field.read_map_of_written rfl inverse found
  have list : ∀ texts ∈ finalizers,
      Decode.optional (Decode.list Decode.text) (Encode.list Json.str texts) = .ok (some texts) :=
    fun texts _ => congrArg (some <$> ·) (Decode.items_map (fun _ => rfl) texts)
  have number : ∀ n ∈ generation, Decode.optional Decode.signed64 (.int n) = .ok (some n) :=
    fun n own => congrArg (some <$> ·) (Decode.integer_encode "i64" (fits.generation n own))
  refine .andOthers ?_ distinct_otherNames kept
  refine .read ?_ (Field.read_of_written rfl list (found "finalizers" (by decide)))
  refine .read ?_ (dictionary _ annotations (found "annotations" (by decide)))
  refine .read ?_ (dictionary _ labels (found "labels" (by decide)))
  refine .read ?_ (time _ deletion fits.deletion (found "deletionTimestamp" (by decide)))
  refine .read ?_ (time _ creation fits.creation (found "creationTimestamp" (by decide)))
  refine .read ?_ (Field.read_of_written rfl number (found "generation" (by decide)))
  refine .read ?_ (text _ version (found "resourceVersion" (by decide)))
  refine .read ?_ (text _ uid (found "uid" (by decide)))
  refine .read ?_ (text _ space (found "namespace" (by decide)))
  refine .read ?_ (text _ generateName (found "generateName" (by decide)))
  refine .read ?_ (text _ name (found "name" (by decide)))
  exact .const _ sorted.nodup

end Metadata

/-! ## Streams as resources -/

namespace SqlServerStream

/-- The numbers fit machine words and the times are on days of the calendar. -/
structure InRange (t : SqlServerStream) : Prop where
  metadata : t.metadata.InRange
  spec : t.spec.InRange

/-- The stream as it is written: with the times of its metadata to the second. -/
def toSecond (t : SqlServerStream) : SqlServerStream := { t with metadata := t.metadata.toSecond }

theorem encode_toSecond (t : SqlServerStream) : t.toSecond.encode = t.encode := by
  rw [encode, toSecond, Metadata.encode_toSecond]
  rfl

/-- The fields a stream is written with, apart from its metadata and the names of its type. -/
def data (t : SqlServerStream) : List (String × Json) :=
  ("spec", t.spec.encode) :: (t.status.map fun status => ("status", status.encode)).toList

/-- A stream is written with its fields in the order of their keys. -/
def fields (t : SqlServerStream) : List (String × Json) :=
  ("apiVersion", .str coordinates.apiVersion) :: ("kind", .str kind) ::
    ("metadata", t.metadata.encode) :: t.data

theorem keys_fields (t : SqlServerStream) : (t.fields.map Prod.fst).Sublist
    ["apiVersion", "kind", "metadata", "spec", "status"] := by
  obtain ⟨metadata, spec, status⟩ := t
  cases status with
  | none => exact List.sublist_append_left _ ["status"]
  | some status => exact List.Sublist.refl _

theorem sorted_fields (t : SqlServerStream) : Entries.Sorted t.fields := by
  have ascending : ["apiVersion", "kind", "metadata", "spec", "status"].Pairwise (· < ·) := by decide
  exact List.pairwise_map.1 (ascending.sublist t.keys_fields)

theorem encode_eq (t : SqlServerStream) : t.encode = .obj t.fields := by
  rw [← Entries.ofList_of_sorted t.sorted_fields]
  obtain ⟨metadata, spec, status⟩ := t
  cases status <;> rfl

/-- A stream that was written is read back to the second. -/
theorem decode_encode (t : SqlServerStream) (fits : t.InRange) : decode t.encode = .ok t.toSecond := by
  have metadata := Metadata.decode_encode t.metadata fits.metadata
  have spec := SqlServerSpec.decode_encode t.spec fits.spec
  rw [encode_eq]
  refine Record.Reads.struct (.read ?_ ?_) _
  · exact .and (.and (.const _ t.sorted_fields.nodup) rfl metadata) rfl spec
  · have found : Entries.get? "status" t.fields = t.status.map fun status => status.encode := by
      obtain ⟨metadata, spec, status⟩ := t
      cases status <;> rfl
    have inverse : ∀ status ∈ t.status, Decode.optional StreamStatus.decode (StreamStatus.encode status)
        = .ok (some status) := fun status _ => congrArg (some <$> ·) status.decode_encode
    exact Field.read_of_written rfl inverse found

/-- The resource that is read of a stream that was written. -/
def resource (t : SqlServerStream) : Resource where
  types := some ⟨coordinates.apiVersion, kind⟩
  metadata := t.metadata.toSecond
  data := .ofList t.data

theorem decode_resource (t : SqlServerStream) (fits : t.InRange) :
    Resource.decode t.encode = .ok t.resource := by
  rw [encode_eq]
  have metadata := Metadata.decode_encode t.metadata fits.metadata
  have types : Resource.takeTypes none none (Entries.erase "metadata" t.fields)
      = (some ⟨coordinates.apiVersion, kind⟩, t.data) := by
    obtain ⟨metadata, spec, status⟩ := t
    cases status <;> rfl
  have found : Entries.get? "metadata" t.fields = some t.metadata.encode := rfl
  simp only [Resource.decode, found, metadata, types]
  rfl

/-- Nothing is left out of the data when they are put in order. -/
theorem toList_data (t : SqlServerStream) : t.resource.data.toList = t.data := by
  have last : t.data.Sublist t.fields := List.drop_sublist 3 t.fields
  exact Entries.ofList_of_sorted (t.sorted_fields.sublist last)

/-- The resource is written as the stream was. -/
theorem encode_resource (t : SqlServerStream) : t.resource.encode = t.encode := by
  have metadata : t.resource.metadata.encode = t.metadata.encode := t.metadata.encode_toSecond
  rw [encode_eq, ← Entries.ofList_of_sorted t.sorted_fields, Resource.encode, toList_data, metadata]
  rfl

/-- Apart from the fractions of seconds in its metadata the resource is viewed as the stream. -/
theorem view_resource (t : SqlServerStream) :
    (Definition.mk t.resource coordinates).view = { t.view with metadata := t.metadata.toSecond } := by
  have spec : t.resource.data.get? "spec" = some t.spec.encode :=
    congrArg (Entries.get? "spec") t.toList_data
  have payload : (Definition.mk t.resource coordinates).payload = t.spec.encode :=
    congrArg (Option.getD · Json.null) spec
  have template : ∀ (backfilling : Bool) (r : TemplateRef),
      t.spec.encode.field? (TemplateRef.field backfilling) = some r.encode →
      (Definition.mk t.resource coordinates).template? backfilling = some r := by
    intro backfilling r found
    rw [Definition.template?, payload, found, Option.bind_some, TemplateRef.decode_encode]
    rfl
  rw [Definition.view, payload, template false _ rfl, template true _ rfl]
  rfl

end SqlServerStream

/-! ## Views -/

/-- For the operator two views are the same: all it makes of a stream is the same for both. -/
structure StreamView.Interchangeable (v w : StreamView) : Prop where
  id : v.id = w.id
  space : v.space = w.space
  kind : v.kind = w.kind
  annotations : v.metadata.annotations = w.metadata.annotations
  state : v.state? = w.state?
  payload : v.payload = w.payload
  checksum : v.checksum = w.checksum
  template : ∀ backfilling, v.templateRef? backfilling = w.templateRef? backfilling
  environment : ∀ backfilling secretFields,
    v.environment backfilling secretFields = w.environment backfilling secretFields
  job : ∀ template coordinates backfilling secretFields,
    Job.build template v coordinates backfilling secretFields
      = Job.build template w coordinates backfilling secretFields

/-- Of the metadata only the annotations count. -/
theorem StreamView.interchangeable_of_metadata (v : StreamView) {m : Metadata}
    (same : m.annotations = v.metadata.annotations) :
    StreamView.Interchangeable { v with metadata := m } v := by
  have state : m.state? = v.metadata.state? := by
    rw [Metadata.state?, Metadata.state?, Metadata.annotation?, Metadata.annotation?, same]
  exact ⟨rfl, rfl, rfl, same, state, rfl, rfl, fun _ => rfl, fun _ _ => rfl, fun _ _ _ _ => rfl⟩

/-- A stream that is written as a resource is the same stream when it is viewed as a definition, and it
is read back of the resource. Times are written to the second, so this is how they are read back; nothing
is lost if they are whole seconds. -/
theorem typed_and_dynamic_views_agree (t : SqlServerStream) (fits : t.InRange) :
    ∃ r, Resource.decode t.encode = .ok r ∧
      (Definition.mk r SqlServerStream.coordinates).view.Interchangeable t.view ∧
      Resource.parse SqlServerStream.decode r = .ok t.toSecond ∧ t.toSecond.encode = t.encode ∧
      (t.metadata.Whole → t.toSecond = t) := by
  refine ⟨t.resource, t.decode_resource fits, ?_, ?_, t.encode_toSecond, fun whole => ?_⟩
  · rw [t.view_resource]
    exact t.view.interchangeable_of_metadata rfl
  · rw [Resource.parse, t.encode_resource, t.decode_encode fits]
  · rw [SqlServerStream.toSecond, Metadata.toSecond_of_whole whole]

section Orders

/-- The table of the orders, in no namespace. -/
def ordersTable : SqlServerStream where
  metadata := {
    name := some "orders"
    generation := some 3
    creationTimestamp := some ⟨1704097230, 500000000⟩
    labels := some .empty
    annotations := some (Dictionary.ofList [(Key.state, "reload-requested")]) }
  spec := {
    connectionSecretRef := ⟨"sql-credentials"⟩
    table := "orders"
    sinkLocation := "s3://lake/orders"
    jobTemplateRef := ⟨"standard", none⟩
    backfillJobTemplateRef := ⟨"large", some "templates"⟩ }
  status := some ⟨some .running, []⟩

theorem inRange_ordersTable : ordersTable.InRange := by
  refine ⟨⟨?_, ?_, nofun⟩, ⟨by decide, by decide⟩⟩
  · rintro n ⟨rfl⟩
    decide
  · rintro t ⟨rfl⟩
    decide

/-- The orders are viewed as those of a definition, and half a second of their creation is lost. -/
theorem views_of_orders_table_agree : ∃ r, Resource.decode ordersTable.encode = .ok r ∧
    let d : Definition := ⟨r, SqlServerStream.coordinates⟩
    d.view.space = "default" ∧ d.view.state? = some .reloadRequested ∧
    d.view.templateRef? true = some ⟨"large", some "templates"⟩ ∧
    d.view.environment false ["table"] = ordersTable.view.environment false ["table"] ∧
    Resource.parse SqlServerStream.decode r = .ok { ordersTable with
      metadata := { ordersTable.metadata with creationTimestamp := some ⟨1704097230, 0⟩ } } := by
  obtain ⟨r, read, same, back, -⟩ := typed_and_dynamic_views_agree ordersTable inRange_ordersTable
  exact ⟨r, read, same.space, same.state.trans (by decide +kernel), same.template true,
    same.environment false ["table"], back⟩

/-- So not every stream is read back as it was: the orders were created at half past a second. -/
theorem orders_table_is_not_read_back : ¬ ∀ t : SqlServerStream, t.InRange →
    ∃ r, Resource.decode t.encode = .ok r ∧
      (Definition.mk r SqlServerStream.coordinates).view.Interchangeable t.view ∧
      Resource.parse SqlServerStream.decode r = .ok t := by
  intro restored
  obtain ⟨r, read, -, back⟩ := restored ordersTable inRange_ordersTable
  obtain rfl := Except.ok.inj ((ordersTable.decode_resource inRange_ordersTable).symm.trans read)
  rw [Resource.parse, ordersTable.encode_resource, ordersTable.decode_encode inRange_ordersTable] at back
  have created : some (Instant.mk 1704097230 0) = some ⟨1704097230, 500000000⟩ :=
    congrArg (fun t => t.metadata.creationTimestamp) (Except.ok.inj back)
  cases created

end Orders

end StreamOperator
