import StreamOperator.Config.Document
import StreamOperator.Proofs.Handler.Repetition
import StreamOperator.Proofs.Kube.Patches
import StreamOperator.Stream.SqlServer

/-!
# The operator's own formats

Coordinates, references, the specifications and statuses of classes and streams and the settings are
read back as they were written, as far as their numbers fit the machine, and numbers that do not fit are
never read. So a definition has exactly the status that was last written to it
(`own_formats_are_faithful`).
-/

set_option autoImplicit false

namespace StreamOperator

/-! ## References -/

theorem Coordinates.decode_encode (c : Coordinates) : Coordinates.decode c.encode = .ok c := by
  obtain ⟨group, version, plural, kind⟩ := c
  refine Record.Reads.struct ?_ _
  refine .and ?_ rfl rfl
  refine .and ?_ rfl rfl
  refine .and ?_ rfl rfl
  exact .and (.const _ (by simp)) rfl rfl

theorem TemplateRef.decode_encode (r : TemplateRef) : TemplateRef.decode r.encode = .ok r := by
  obtain ⟨name, space⟩ := r
  refine Record.Reads.struct ?_ _
  refine .and ?_ rfl (Decode.optional_encode (fun _ => rfl) space)
  exact .and (.const _ (by simp)) rfl rfl

theorem SecretRef.decode_encode (r : SecretRef) : SecretRef.decode r.encode = .ok r := by
  obtain ⟨name⟩ := r
  exact Record.Reads.struct (.and (.const _ (by simp)) rfl rfl) _

/-! ## Specifications of classes -/

/-- The capacity fits a machine word. -/
def ClassSpec.InRange (s : ClassSpec) : Prop := s.maxBufferCapacity < Nat.pow 2 64

theorem ClassSpec.decode_encode (s : ClassSpec) (fits : s.InRange) :
    ClassSpec.decode s.encode = .ok s := by
  obtain ⟨group, version, plural, kind, secrets, capacity⟩ := s
  refine Record.Reads.struct ?_ _
  refine .and ?_ rfl (Decode.natural_encode _ fits)
  refine .and ?_ rfl (Decode.items_map (fun _ => rfl) secrets)
  refine .and ?_ rfl rfl
  refine .and ?_ rfl rfl
  refine .and ?_ rfl rfl
  exact .and (.const _ (by simp)) rfl rfl

theorem ClassSpec.decode_yields : ClassSpec.decode.Yields ClassSpec.InRange := by
  refine Record.Yields.struct ?_ _
  refine .and ?_ (Field.defaulted_yields _ (Decode.natural_yields _ 64) (by decide))
  refine .and ?_ (Field.yields_true _)
  refine .and ?_ (Field.yields_true _)
  refine .and ?_ (Field.yields_true _)
  refine .and ?_ (Field.yields_true _)
  refine .and (Record.yields_const ?_) (Field.yields_true _)
  intro _ _ _ _ _ _ _ _ _ _ capacity fits
  exact fits

/-! ## Specifications of streams from SQL Server tables -/

/-- A signed number of 32 bits. -/
abbrev Fits32 (n : Int) : Prop := -(Nat.pow 2 31) ≤ n ∧ n ≤ Nat.pow 2 31 - 1

structure SqlServerSpec.InRange (s : SqlServerSpec) : Prop where
  rows : Fits32 s.rowsPerGroup
  interval : Fits32 s.changeCaptureIntervalSeconds

theorem SqlServerSpec.decode_encode (s : SqlServerSpec) (fits : s.InRange) :
    SqlServerSpec.decode s.encode = .ok s := by
  obtain ⟨secret, schema, table, sink, rows, interval, template, backfillTemplate⟩ := s
  refine Record.Reads.struct ?_ _
  refine .and ?_ rfl (TemplateRef.decode_encode backfillTemplate)
  refine .and ?_ rfl (TemplateRef.decode_encode template)
  refine .and ?_ rfl (Decode.integer_encode _ fits.interval)
  refine .and ?_ rfl (Decode.integer_encode _ fits.rows)
  refine .and ?_ rfl rfl
  refine .and ?_ rfl rfl
  refine .and ?_ rfl rfl
  exact .and (.const _ (by simp)) rfl (SecretRef.decode_encode secret)

theorem SqlServerSpec.decode_yields : SqlServerSpec.decode.Yields SqlServerSpec.InRange := by
  have number : Decode.signed32.Yields Fits32 := Decode.integer_yields _ _ _
  refine Record.Yields.struct ?_ _
  refine .and ?_ (Field.yields_true _)
  refine .and ?_ (Field.yields_true _)
  refine .and ?_ (Field.defaulted_yields _ number (by decide))
  refine .and ?_ (Field.defaulted_yields _ number (by decide))
  refine .and ?_ (Field.yields_true _)
  refine .and ?_ (Field.yields_true _)
  refine .and ?_ (Field.yields_true _)
  refine .and (Record.yields_const ?_) (Field.yields_true _)
  intro _ _ _ _ _ _ _ _ rows fitsRows interval fitsInterval _ _ _ _
  exact ⟨fitsRows, fitsInterval⟩

/-! ## Settings -/

structure Config.InRange (c : Config) : Prop where
  jobBuffer : c.jobBufferCapacity < Nat.pow 2 64
  classBuffer : c.classBufferCapacity < Nat.pow 2 64
  dedup : c.dedupCapacity < Nat.pow 2 64
  classCache : c.classCacheCapacity < Nat.pow 2 64
  restartDelay : c.restartDelaySeconds < Nat.pow 2 64

theorem Config.decode_encode (c : Config) (fits : c.InRange) : Config.decode c.encode = .ok c := by
  obtain ⟨space, jobBuffer, classBuffer, dedup, classCache, restartDelay, fieldManager⟩ := c
  refine Record.Reads.struct ?_ _
  refine .and ?_ rfl rfl
  refine .and ?_ rfl (Decode.natural_encode _ fits.restartDelay)
  refine .and ?_ rfl (Decode.natural_encode _ fits.classCache)
  refine .and ?_ rfl (Decode.natural_encode _ fits.dedup)
  refine .and ?_ rfl (Decode.natural_encode _ fits.classBuffer)
  refine .and ?_ rfl (Decode.natural_encode _ fits.jobBuffer)
  exact .and (.const _ (by simp)) rfl (Decode.optional_encode (fun _ => rfl) space)

theorem Config.decode_yields : Config.decode.Yields Config.InRange := by
  have number : ∀ kind, (Decode.natural kind 64).Yields fun n => n < Nat.pow 2 64 :=
    fun kind => Decode.natural_yields kind 64
  refine Record.Yields.struct ?_ _
  refine .and ?_ (Field.yields_true _)
  refine .and ?_ (Field.defaulted_yields _ (number _) (by decide))
  refine .and ?_ (Field.defaulted_yields _ (number _) (by decide))
  refine .and ?_ (Field.defaulted_yields _ (number _) (by decide))
  refine .and ?_ (Field.defaulted_yields _ (number _) (by decide))
  refine .and ?_ (Field.defaulted_yields _ (number _) (by decide))
  refine .and (Record.yields_const ?_) (Field.yields_true _)
  intro _ _ _ jobBuffer _ classBuffer _ dedup _ classCache _ restartDelay _ _
  exact ⟨jobBuffer, classBuffer, dedup, classCache, restartDelay⟩

/-- Settings that were read from a document are read again after they were written. -/
theorem Config.decode_of_ofYaml {document : String} {c : Config}
    (read : Config.ofYaml document = .ok c) : Config.decode c.encode = .ok c := by
  unfold ofYaml at read
  cases fields : readDocument document with
  | error e =>
    rw [fields] at read
    cases read
  | ok value =>
    simp only [fields, pure_bind] at read
    cases decoded : Config.decode value with
    | error e =>
      rw [decoded] at read
      cases read
    | ok config =>
      rw [decoded] at read
      obtain ⟨_, -, read⟩ := Except.bind_eq_ok.1 read
      obtain rfl := Except.ok.inj read
      exact decode_encode config (decode_yields value config decoded)

/-! ## Statuses -/

variable {h : Handler Cluster} {k : Cluster} {stream : StreamRef} {r : Resource}

/-- The status that a stream is to have once conditions are merged in. -/
def Definition.nextStatus (d : Definition) (now : String) (phase : StreamPhase)
    (pending : List Condition) : StreamStatus :=
  ⟨some phase, Condition.merge now (d.status?.getD {}).conditions pending⟩

/-- A status that is to stay as it is says already what it is to say. -/
theorem Definition.status?_of_settled {d : Definition} {now : String} {phase : StreamPhase}
    {pending : List Condition} (settled : (d.status?.getD {}).advance now phase pending = none) :
    d.status? = some (d.nextStatus now phase pending) := by
  simp only [Status.advance, ite_eq_left_iff, reduceCtorEq, imp_false, Decidable.not_not] at settled
  obtain ⟨entered, merged⟩ := settled
  rw [nextStatus, merged, ← entered]
  cases status : d.status? with
  | none =>
    rw [status] at entered
    cases entered
  | some s => rfl

/-- After an update the stored definition has the phase and the conditions that were asked for. -/
theorem Handler.updateStatus_stores (inMemory : h.api = Cluster.api)
    (stored : k.resource? stream.coordinates stream.space stream.name = some r)
    (reads : k.failing.contains "get_custom_resource" = false)
    (writes : k.failing.contains "patch_custom_resource_status" = false) (phase : StreamPhase)
    (pending : List Condition) : ∃ k' r', h.updateStatus stream phase pending k = (.ok (), k') ∧
      k'.resource? stream.coordinates stream.space stream.name = some r' ∧
      (Definition.mk r' stream.coordinates).status?
        = some ((Definition.mk r stream.coordinates).nextStatus h.now phase pending) := by
  rw [updateStatus_apply inMemory, Cluster.amend, if_neg (by rw [reads]; decide), Cluster.restate,
    stored, Option.bind_some]
  cases next : (currentStatus stream.coordinates r).advance h.now phase pending with
  | none => exact ⟨k, r, rfl, stored, Definition.status?_of_settled next⟩
  | some s =>
    have same : s = (Definition.mk r stream.coordinates).nextStatus h.now phase pending :=
      Status.eq_of_advance next
    have placed : (Cluster.restated r (StreamStatus.encode s) k.nextVersion).data.get? "status"
        = some (StreamStatus.encode s) := Dictionary.get?_insert_self _ _ _
    rw [Option.map_some, ← same]
    simp only [writes, Bool.false_eq_true, if_false]
    refine ⟨_, _, rfl, Cluster.afterResource_target, ?_⟩
    show ((Cluster.restated r (StreamStatus.encode s) k.nextVersion).data.get? "status").bind _ = _
    rw [placed, Option.bind_some, StreamStatus.decode_encode]
    rfl

/-- A status with a phase is read from what a merge patch makes of any document with it, whatever else
the status of the document says. -/
theorem StreamStatus.decode_mergePatch (s : StreamStatus) (entered : s.phase.isSome = true)
    (document : Json) (sorted : Entries.Sorted ((document.field? "status").getD .null).fieldsOf) :
    ∃ value, (document.mergePatch (statusPatch (StreamStatus.encode s))).field? "status" = some value ∧
      StreamStatus.decode value = .ok s := by
  have present : StreamStatus.encode s ≠ .null := nofun
  rw [statusPatch, Json.mergePatch_field present]
  exact ⟨_, Entries.get?_insert_self _ _ _,
    Status.decode_mergePatch StreamPhase.decode_encode (fun p => ⟨p.text, rfl⟩) _ _ entered sorted⟩

/-- Every value of the operator's own formats is read back as it was written, numbers as far as they fit
the machine, and every document that is read can be written and read again. So after a status was
updated the definition has exactly the phase and the conditions that were merged, in memory and where a
server merges them into what else it keeps. -/
theorem own_formats_are_faithful :
    Coordinates.decode.Faithful Coordinates.encode (fun _ => True) ∧
    TemplateRef.decode.Faithful TemplateRef.encode (fun _ => True) ∧
    SecretRef.decode.Faithful SecretRef.encode (fun _ => True) ∧
    ClassSpec.decode.Faithful ClassSpec.encode ClassSpec.InRange ∧
    ClassStatus.decode.Faithful ClassStatus.encode (fun _ => True) ∧
    StreamStatus.decode.Faithful StreamStatus.encode (fun _ => True) ∧
    SqlServerSpec.decode.Faithful SqlServerSpec.encode SqlServerSpec.InRange ∧
    Config.decode.Faithful Config.encode Config.InRange ∧
    (∀ document c, Config.ofYaml document = .ok c → Config.decode c.encode = .ok c) ∧
    (∀ (classes : String → Option StreamClass) (now : String) (stream : StreamRef)
      (phase : StreamPhase) (pending : List Condition) (k : Cluster) (r : Resource),
      k.resource? stream.coordinates stream.space stream.name = some r →
      k.failing.contains "get_custom_resource" = false →
      k.failing.contains "patch_custom_resource_status" = false →
      ∃ k' r', (Handler.mk Cluster.api classes now).updateStatus stream phase pending k = (.ok (), k') ∧
        k'.resource? stream.coordinates stream.space stream.name = some r' ∧
        (Definition.mk r' stream.coordinates).status?
          = some ((Definition.mk r stream.coordinates).nextStatus now phase pending)) ∧
    ∀ (s : StreamStatus) (document : Json), s.phase.isSome = true →
      Entries.Sorted ((document.field? "status").getD .null).fieldsOf →
      ∃ value, (document.mergePatch (statusPatch (StreamStatus.encode s))).field? "status" = some value ∧
        StreamStatus.decode value = .ok s := by
  refine ⟨?_, ?_, ?_, ?_, ?_, ?_, ?_, ?_, ?_, ?_, ?_⟩
  · exact (Decoder.yields_true _).faithful fun c _ => c.decode_encode
  · exact (Decoder.yields_true _).faithful fun r _ => r.decode_encode
  · exact (Decoder.yields_true _).faithful fun r _ => r.decode_encode
  · exact ClassSpec.decode_yields.faithful ClassSpec.decode_encode
  · exact (Decoder.yields_true _).faithful fun s _ => ClassStatus.decode_encode s
  · exact (Decoder.yields_true _).faithful fun s _ => StreamStatus.decode_encode s
  · exact SqlServerSpec.decode_yields.faithful SqlServerSpec.decode_encode
  · exact Config.decode_yields.faithful Config.decode_encode
  · exact fun document c read => Config.decode_of_ofYaml read
  · exact fun classes now stream phase pending k r stored reads writes =>
      Handler.updateStatus_stores rfl stored reads writes phase pending
  · exact fun s document entered sorted => StreamStatus.decode_mergePatch s entered document sorted

section Orders

/-- The settings with the longest delay there is. -/
def patientConfig : Config := { restartDelaySeconds := Nat.pow 2 64 - 1 }

/-- The orders as a server keeps them, with a status that others write to as well. -/
def sharedOrders : Json := .obj [("status", .obj [("lag", .int 5), ("phase", .null)])]

/-- The longest delay, the settings of the empty document and the status of the orders are read back. -/
theorem orders_and_settings_are_read_back :
    let running : StreamStatus := ⟨some .running, Condition.merge "2024-01-01T00:00:00Z" []
      (StreamPhase.running.conditions Condition.Reason.running "Stream job is running")⟩
    Config.decode patientConfig.encode = .ok patientConfig ∧
    Config.ofYaml "" = .ok {} ∧ Config.decode (Config.encode {}) = .ok {} ∧
    (∃ k' r', onFirstDay.updateStatus (Orders.definition "4" none).reference .running
        (StreamPhase.running.conditions Condition.Reason.running "Stream job is running")
        (Orders.cluster (Orders.definition "4" none) []) = (.ok (), k') ∧
      k'.resource? Orders.kind "streams" "orders" = some r' ∧
      (Definition.mk r' Orders.kind).status? = some running) ∧
    ∃ value, (sharedOrders.mergePatch (statusPatch (StreamStatus.encode running))).field? "status"
      = some value ∧ StreamStatus.decode value = .ok running := by
  intro running
  obtain ⟨-, -, -, -, -, -, -, settings, documents, updates, patches⟩ := own_formats_are_faithful
  refine ⟨settings.decode_encode patientConfig ⟨by decide, by decide, by decide, by decide, by decide⟩,
    rfl, documents "" {} rfl, ?_, ?_⟩
  · exact updates (fun _ => none) "2024-01-01T00:00:00Z" (Orders.definition "4" none).reference .running
      _ _ (Orders.definition "4" none).resource rfl rfl rfl
  · have sorted : Entries.Sorted [("lag", Json.int 5), ("phase", .null)] :=
      List.pairwise_pair.2 (by decide)
    exact patches running sharedOrders rfl sorted

end Orders

end StreamOperator
