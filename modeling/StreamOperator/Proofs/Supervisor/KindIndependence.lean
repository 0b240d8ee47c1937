import StreamOperator.Proofs.Supervisor.ClassEdits
import StreamOperator.Proofs.Supervisor.ClassWrites
import StreamOperator.Proofs.Supervisor.Errands

/-!
# Kinds are independent

Two classes with different ids are attached and detached independently, if they and the classes that
have the handles under their ids are for different kinds and the registry has room for both
(`kinds_are_independent`). What remains to be seen for this is what an errand does to the statuses of
classes (`Performs.status_eq`) and to what belongs to another class (`Pursues.keeps`).
-/

set_option autoImplicit false

namespace StreamOperator

/-! ## Stored statuses -/

namespace Cluster

/-- The status of a class as it is stored, if the class is. -/
def classStatus? (k : Cluster) (ref : ClassRef) : Option (Option Json) :=
  (k.class? ref).map fun r => r.data.get? "status"

theorem Edits.classStatus?_eq {k k' : Cluster} {ref other : ClassRef} {P : Resource → Resource → Prop}
    (edits : Edits ref.key P k k') (differ : other ≠ ref) :
    k'.classStatus? other = k.classStatus? other := by
  have same : k'.class? other = k.class? other :=
    edits.elsewhere fun own => differ (ClassRef.key_inj own)
  rw [classStatus?, same, classStatus?]

end Cluster

/-- What a stored status says to a report on it. -/
def ClassStatus.ofStored (stored : Option Json) : ClassStatus :=
  (stored.bind fun value => (decode value).toOption).getD {}

namespace StatusWrite

variable {h : Handler Cluster} {c : StreamClass} {report : ClassReport} {w : StatusWrite}
  {next : Option StatusWrite} {k k' : Cluster} {now : String}

/-- The stored status after it was written, unless such writes are made to fail. -/
def overwrite (failing : List String) (status : Json) (stored : Option (Option Json)) :
    Option (Option Json) :=
  if failing.contains "patch_custom_resource_status" then stored else stored.map fun _ => some status

/-- What a report makes of the stored status from where its writing stands. -/
def leaves (failing : List String) (now : String) (report : ClassReport) (w : StatusWrite)
    (stored : Option (Option Json)) : Option (Option Json) :=
  match w with
  | writing status => overwrite failing status stored
  | reading =>
    if failing.contains "get_custom_resource" then stored
    else
      match stored.bind fun current =>
        (ClassStatus.ofStored current).advance now report.phase report.conditions with
      | none => stored
      | some s => overwrite failing (ClassStatus.encode s) stored

theorem classStatus?_of_commit (inMemory : h.api = Cluster.api) (status : Json) :
    (h.commitClassStatus c.reference status k).2.classStatus? c.reference =
      overwrite k.failing status (k.classStatus? c.reference) := by
  cases found : k.class? c.reference with
  | some r =>
    rw [Handler.commitClassStatus_of_found inMemory found, overwrite]
    split
    · rfl
    · have written : (Cluster.restated r status k.nextVersion).data.get? "status" = some status :=
        Dictionary.get?_insert_self _ _ _
      simp only [Cluster.classStatus?, Cluster.class?_afterClassStatus, found, Option.map_some, written]
  | none =>
    have written : (writing status).step h c .attached k =
        (none, (h.commitClassStatus c.reference status k).2) := rfl
    have gone : (h.commitClassStatus c.reference status k).2.class? c.reference = none := by
      apply Option.not_isSome_iff_eq_none.1
      intro stored
      have before := (altersPhases_of_step inMemory written).stored stored
      rw [found] at before
      cases before
    simp [Cluster.classStatus?, gone, found, overwrite]

/-- A step of a report comes nearer to what the report makes of the stored status. -/
theorem leaves_of_step (inMemory : h.api = Cluster.api)
    (taken : w.step h c report k = (next, k')) :
    (next.elim (k'.classStatus? c.reference) fun w =>
      w.leaves k.failing h.now report (k'.classStatus? c.reference)) =
    w.leaves k.failing h.now report (k.classStatus? c.reference) := by
  cases w with
  | writing status =>
    cases taken
    exact classStatus?_of_commit inMemory status
  | reading =>
    by_cases refused : k.failing.contains "get_custom_resource" = true
    · have prepared : h.prepareClassStatus c.reference report.phase report.conditions k = _ :=
        Handler.prepareClassStatus_apply inMemory
      rw [if_pos refused] at prepared
      rw [step, ← ClassReport.conditions, prepared] at taken
      cases taken
      rw [leaves, if_pos refused]
      rfl
    · rw [step_reading inMemory (by simpa using refused)] at taken
      cases taken
      rw [leaves, if_neg refused]
      have read : ((k.classStatus? c.reference).bind fun current =>
          (ClassStatus.ofStored current).advance h.now report.phase report.conditions) =
          (k.class? c.reference).bind fun r =>
            (Handler.currentClassStatus r).advance h.now report.phase report.conditions := by
        rw [Cluster.classStatus?, Option.bind_map]
        rfl
      rw [read]
      cases found : k.class? c.reference with
      | none => rfl
      | some r =>
        simp only [Option.bind_some]
        cases (Handler.currentClassStatus r).advance h.now report.phase report.conditions <;> rfl

end StatusWrite

/-- What the report that is still to be written makes of the stored status of its class. -/
def Prospect.leaves (p : Prospect) (failing : List String) (now : String)
    (stored : Option (Option Json)) : Option (Option Json) :=
  match p.due with
  | none => stored
  | some (report, write) => write.leaves failing now report stored

namespace Session

variable {w v : Session} {others : Session → Session → Prop} {now : String} {e : Errand}
  {c d : StreamClass} {ref : ClassRef} {p q : Prospect} {k k' : Cluster}
  {result : Except Failure Unit}

theorem Nears.failing_eq (nears : Nears now c k k' p q) : k'.failing = k.failing := by
  cases nears with
  | silent _ unwritten => rw [unwritten]
  | written inMemory _ _ taken =>
    obtain ⟨P, edits⟩ := StatusWrite.edits_of_step inMemory taken
    exact edits.failing

theorem Nears.elsewhere (nears : Nears now c k k' p q) (differ : ref ≠ c.reference) :
    k'.classStatus? ref = k.classStatus? ref := by
  cases nears with
  | silent _ unwritten => rw [unwritten]
  | written inMemory _ _ taken =>
    obtain ⟨P, edits⟩ := StatusWrite.edits_of_step inMemory taken
    exact edits.classStatus?_eq differ

theorem Nears.leaves_eq (nears : Nears now c k k' p q) :
    q.leaves k.failing now (k'.classStatus? c.reference) =
      p.leaves k.failing now (k.classStatus? c.reference) := by
  cases nears with
  | silent same unwritten => rw [same, unwritten]
  | @written h report write next inMemory present due taken same =>
    have step := StatusWrite.leaves_of_step inMemory taken
    rw [present] at step
    have before : p.leaves k.failing now (k.classStatus? c.reference) =
        write.leaves k.failing now report (k.classStatus? c.reference) := by
      rw [Prospect.leaves, due]
    rw [before, ← step, same]
    cases next <;> rfl

/-- The others leave the status of a class alone, and what requests are made to fail. -/
def SparesStatus (others : Session → Session → Prop) (ref : ClassRef) : Prop :=
  ∀ x y, others x y → y.cluster.failing = x.cluster.failing ∧
    y.cluster.classStatus? ref = x.cluster.classStatus? ref

/-- An errand that is over has written its report to the status of its class, and nothing else. -/
theorem Performs.status_eq (performs : w.Performs others now e result v) (reachable : w.Reachable)
    (idle : w.IsIdle) (spares : SparesStatus others ref) :
    v.cluster.failing = w.cluster.failing ∧ v.cluster.classStatus? ref =
      if ref = e.subject.reference then
        (e.prospect w.supervisor.stopped w.supervisor.roster).leaves w.cluster.failing now
          (w.cluster.classStatus? ref)
      else w.cluster.classStatus? ref := by
  obtain ⟨pursues, call, current, finished⟩ := performs
  have kept := pursues.induction (P := fun x p => x.cluster.failing = w.cluster.failing ∧
    (if ref = e.subject.reference then p.leaves w.cluster.failing now (x.cluster.classStatus? ref)
      else x.cluster.classStatus? ref) = if ref = e.subject.reference then
        (e.prospect w.supervisor.stopped w.supervisor.roster).leaves w.cluster.failing now
          (w.cluster.classStatus? ref)
      else w.cluster.classStatus? ref) reachable idle ⟨rfl, rfl⟩ ?_ ?_
  · obtain ⟨p, ⟨call', current', -, foreseen⟩, failing, status⟩ := kept
    obtain rfl := Option.some.inj (current.symm.trans current')
    obtain rfl := Call.prospect_of_result finished foreseen
    refine ⟨failing, status ▸ ?_⟩
    split <;> rfl
  · rintro x y p q advances ⟨failing, status⟩
    refine ⟨advances.nears.failing_eq.trans failing, status ▸ ?_⟩
    split
    · rename_i own
      rw [own, ← failing]
      exact advances.nears.leaves_eq
    · rename_i differ
      exact advances.nears.elsewhere differ
  · rintro x y p - - allowed ⟨failing, status⟩
    obtain ⟨failing', status'⟩ := spares x y allowed
    rw [failing', status']
    exact ⟨failing, status⟩

end Session

/-! ## What belongs to the other class -/

theorem Supervisor.Keeps.trans {s t u : Supervisor} {c : StreamClass} (first : s.Keeps t c)
    (second : t.Keeps u c) : s.Keeps u c where
  handle := second.handle.trans first.handle
  pipeline handle found := by
    have still : Table.get? c.id t.handles = some handle := first.handle.trans found
    rw [second.pipeline handle still, first.pipeline handle found]
  entry := second.entry.trans first.entry

/-- What belongs to a class, and to the class that has the handle under its id, is as it was: the handle
with its number, the pipeline, and the entries for the kinds of both. -/
def Supervisor.KeepsAll (s t : Supervisor) (c : StreamClass) : Prop :=
  ∀ d, d = c ∨ s.class? c.id = some d → s.Keeps t d

namespace Session

variable {w v u : Session} {others : Session → Session → Prop} {now now' : String} {e a b : Errand}
  {c d : StreamClass} {ref : ClassRef} {result : Except Failure Unit}

/-- As far as the others leave alone what belongs to a class, the errand does. -/
def Spares (w : Session) (others : Session → Session → Prop) (now : String) (e : Errand)
    (c : StreamClass) : Prop :=
  (∀ x y, others x y → x.supervisor.KeepsAll y.supervisor c) →
    ∀ v, w.Pursues others now e v → w.supervisor.KeepsAll v.supervisor c

/-- An errand keeps what belongs to a class with another id and for a kind that is not involved. -/
theorem Pursues.keeps (pursues : w.Pursues others now e v) (reachable : w.Reachable) (idle : w.IsIdle)
    (other : e.subject.id ≠ d.id) (outside : ¬ w.supervisor.roster.Involves e.subject d.spec.kindRef)
    (spared : ∀ x y, others x y → w.supervisor.Keeps x.supervisor d →
      x.supervisor.Keeps y.supervisor d) : w.supervisor.Keeps v.supervisor d := by
  have leaves := e.leaves_prospect w.supervisor.stopped w.supervisor.roster
  have kept := pursues.induction (P := fun x p => w.supervisor.Keeps x.supervisor d ∧
    p.roster = (e.prospect w.supervisor.stopped w.supervisor.roster).roster) reachable idle
    ⟨.refl _ _, rfl⟩ ?_ ?_
  · obtain ⟨p, -, keeps, -⟩ := kept
    exact keeps
  · rintro x y p q advances ⟨keeps, roster⟩
    have entry : y.supervisor.registry.get? d.spec.kindRef =
        x.supervisor.registry.get? d.spec.kindRef := by
      rcases advances.registry with same | final
      · rw [same]
      · rw [final, roster, leaves.get?_eq outside]
        exact keeps.entry.symm
    exact ⟨keeps.trans (advances.keeps other entry), advances.nears.settled.2.trans roster⟩
  · rintro x y p - - allowed ⟨keeps, roster⟩
    exact ⟨keeps.trans (spared x y allowed keeps), roster⟩

theorem spares_of_apart (reachable : w.Reachable) (idle : w.IsIdle)
    (apart : w.supervisor.roster.Apart e.subject c) : w.Spares others now e c := by
  intro spared v pursues d belongs
  have id_eq : d.id = c.id := by
    rcases belongs with rfl | attached
    · rfl
    · exact reachable.matched.id_of_class? attached
  have involved : w.supervisor.roster.Involves c d.spec.kindRef := by
    rcases belongs with rfl | attached
    · exact .inl rfl
    · exact .inr ⟨d, attached, rfl⟩
  refine pursues.keeps reachable idle (id_eq ▸ apart.ids)
    (fun own => apart.kinds _ own involved) fun x y allowed keeps => ?_
  -- The handle stands since the errand was begun, so the class belongs to the other one still.
  have class_eq : x.supervisor.class? c.id = w.supervisor.class? c.id := by
    rw [Supervisor.class?, ← id_eq, keeps.handle]
    rfl
  exact spared x y allowed d (belongs.imp_right fun attached => class_eq.trans attached)

end Session

/-! ## Either order -/

/-- A handle but for its number. -/
def Handle.unnumbered (handle : Handle) : StreamClass × Option Int :=
  (handle.streamClass, handle.generation)

namespace Session

variable {w v u : Session} {others : Session → Session → Prop} {now now' : String} {e a b : Errand}
  {c d : StreamClass} {ref : ClassRef} {result : Except Failure Unit}

/-- One errand is run to its end, and then another one. -/
def PerformsBoth (w : Session) (others : Session → Session → Prop) (now now' : String) (a b : Errand)
    (first second : Except Failure Unit) (u : Session) : Prop :=
  ∃ v, w.Performs others now a first v ∧ v.Performs others now' b second u

/-- The handles are told by the classes, but for the numbers. -/
theorem Reachable.unnumbered_eq (reachable : w.Reachable) (id : String) :
    (Table.get? id w.supervisor.handles).map Handle.unnumbered =
      (w.supervisor.class? id).map fun c => (c, c.metadata.generation) := by
  cases found : Table.get? id w.supervisor.handles with
  | none => rw [Supervisor.class?_eq_none_iff.2 found, Option.map_none, Option.map_none]
  | some handle =>
    have generation : handle.generation = _ :=
      reachable.matched.generation _ (Table.mem_of_get? found)
    rw [Supervisor.class?_of_get? found, Option.map_some, Option.map_some, Handle.unnumbered, generation]

/-- What is run second has the result and the report that it would have alone. -/
theorem PerformsBoth.outcome {first second : Except Failure Unit}
    (both : w.PerformsBoth others now now' a b first second u) (reachable : w.Reachable)
    (idle : w.IsIdle) (separates : w.supervisor.roster.Separates a b) :
    u.Reachable ∧ first = (a.prospect w.supervisor.stopped w.supervisor.roster).result ∧
      second = (b.prospect w.supervisor.stopped w.supervisor.roster).result ∧
      u.supervisor.roster = (b.prospect w.supervisor.stopped
        (a.prospect w.supervisor.stopped w.supervisor.roster).roster).roster := by
  obtain ⟨v, performs, performs'⟩ := both
  have reachable' := performs.reachable reachable idle
  obtain ⟨stopped, first_eq, roster⟩ := performs.outcome reachable idle
  obtain ⟨-, second_eq, roster'⟩ := performs'.outcome reachable' performs.idle
  rw [stopped, roster] at second_eq roster'
  refine ⟨performs'.reachable reachable' performs.idle, first_eq, ?_, roster'⟩
  exact second_eq.trans (separates.second _).result

/-- Of two classes each is told by its own report. -/
theorem PerformsBoth.status_eq {first second : Except Failure Unit}
    (both : w.PerformsBoth others now now' a b first second u) (reachable : w.Reachable)
    (idle : w.IsIdle) (separates : w.supervisor.roster.Separates a b)
    (references : a.subject.reference ≠ b.subject.reference) (spares : SparesStatus others ref) :
    u.cluster.classStatus? ref =
      if ref = a.subject.reference then
        (a.prospect w.supervisor.stopped w.supervisor.roster).leaves w.cluster.failing now
          (w.cluster.classStatus? ref)
      else if ref = b.subject.reference then
        (b.prospect w.supervisor.stopped w.supervisor.roster).leaves w.cluster.failing now'
          (w.cluster.classStatus? ref)
      else w.cluster.classStatus? ref := by
  obtain ⟨v, performs, performs'⟩ := both
  obtain ⟨stopped, -, roster⟩ := performs.outcome reachable idle
  obtain ⟨failing, status⟩ := performs.status_eq reachable idle spares
  obtain ⟨-, status'⟩ :=
    performs'.status_eq (performs.reachable reachable idle) performs.idle spares
  have leaves : (b.prospect v.supervisor.stopped v.supervisor.roster).leaves v.cluster.failing now' =
      (b.prospect w.supervisor.stopped w.supervisor.roster).leaves w.cluster.failing now' := by
    funext stored
    rw [stopped, roster, failing, Prospect.leaves, (separates.second _).due, Prospect.leaves]
  rw [status', leaves, status]
  by_cases own : ref = a.subject.reference
  · have other : ref ≠ b.subject.reference := fun same => references (own.symm.trans same)
    rw [if_pos own, if_neg other, if_pos own]
  · rw [if_neg own, if_neg own]

/-- Kinds are independent. Of two classes with different ids, let neither be for the kind of the other
one or of the class that has the handle under the id of the other one, and let the registry have room for
both. Then each can be attached or detached in either order, if the pipelines take their steps; and
whatever the pipelines and others do meanwhile, in either order both errands have the same results and
leave the same handles, but for their numbers, and the same registry. A stored status is the same that
only the errands may write, if the two classes are two resources. Each errand, whether it succeeds or
fails, first or second, leaves alone what belongs to the other class, as far as the others do. -/
theorem kinds_are_independent (reachable : w.Reachable) (idle : w.IsIdle)
    (separates : w.supervisor.roster.Separates a b) :
    (PermitsPipelines others →
      (∃ ra rb u, w.PerformsBoth others now now' a b ra rb u) ∧
      (∃ rb ra u, w.PerformsBoth others now' now b a rb ra u)) ∧
    (∀ ra rb u ra' rb' u', w.PerformsBoth others now now' a b ra rb u →
      w.PerformsBoth others now' now b a rb' ra' u' →
      ra' = ra ∧ rb' = rb ∧
      (∀ id, (Table.get? id u'.supervisor.handles).map Handle.unnumbered =
        (Table.get? id u.supervisor.handles).map Handle.unnumbered) ∧
      u'.supervisor.registry = u.supervisor.registry ∧
      (a.subject.reference ≠ b.subject.reference → ∀ ref, SparesStatus others ref →
        u'.cluster.classStatus? ref = u.cluster.classStatus? ref)) ∧
    w.Spares others now a b.subject ∧ w.Spares others now' b a.subject ∧
    (∀ ra v, w.Performs others now a ra v → v.Spares others now' b a.subject) ∧
    (∀ rb v, w.Performs others now' b rb v → v.Spares others now a b.subject) := by
  have exist : ∀ {now now' a b}, PermitsPipelines others →
      ∃ ra rb u, w.PerformsBoth others now now' a b ra rb u := by
    intro now now' a b permits
    obtain ⟨ra, v, performs⟩ := exists_performed reachable idle permits now a
    obtain ⟨rb, u, performs'⟩ :=
      exists_performed (performs.reachable reachable idle) performs.idle permits now' b
    exact ⟨ra, rb, u, v, performs, performs'⟩
  have later : ∀ {now now' a b ra v}, w.supervisor.roster.Apart a.subject b.subject →
      w.Performs others now a ra v → v.Spares others now' b a.subject := by
    intro now now' a b ra v apart performs
    have leaves := a.leaves_prospect w.supervisor.stopped w.supervisor.roster
    rw [← (performs.outcome reachable idle).2.2] at leaves
    exact spares_of_apart (performs.reachable reachable idle) performs.idle (apart.after leaves).symm
  have apart := separates.toApart
  refine ⟨fun permits => ⟨exist permits, exist permits⟩, ?_, spares_of_apart reachable idle apart,
    spares_of_apart reachable idle apart.symm, fun _ _ => later apart, fun _ _ => later apart.symm⟩
  intro ra rb u ra' rb' u' both both'
  obtain ⟨reached, first, second, roster⟩ := both.outcome reachable idle separates
  obtain ⟨reached', second', first', roster'⟩ := both'.outcome reachable idle separates.symm
  have same : u'.supervisor.roster = u.supervisor.roster := by
    rw [roster, roster', separates.exchange]
  refine ⟨first'.trans first.symm, second'.trans second.symm, fun id => ?_, ?_, ?_⟩
  · have class_eq : u'.supervisor.class? id = u.supervisor.class? id :=
      congrFun (congrArg Roster.classes same) id
    rw [reached.unnumbered_eq, reached'.unnumbered_eq, class_eq]
  · exact congrArg Roster.registry same
  · intro references ref spares
    rw [both.status_eq reachable idle separates references spares,
      both'.status_eq reachable idle separates.symm references.symm spares]
    have differ : ref = b.subject.reference → ref ≠ a.subject.reference :=
      fun other own => references (own.symm.trans other)
    exact ite_ite_comm _ _ _ _ differ

/-! ## Two kinds -/

/-- A class for another kind. -/
def kafka : StreamClass where
  metadata := { name := some "kafka", space := some "streaming", generation := some 1 }
  spec := {
    apiGroupRef := "streaming.example.org"
    pluralName := "kafka-streams"
    kindRef := "KafkaStream" }
  status := none

/-- The cluster stores both classes; neither has been told anything. -/
def stocked : Cluster where
  resources := [
    (⟨"streamclasses", "streaming", "sql-server"⟩, ⟨none, sqlServer.metadata, .empty⟩),
    (⟨"streamclasses", "streaming", "kafka"⟩, ⟨none, kafka.metadata, .empty⟩)]

/-- A supervisor without classes, with room for two kinds. -/
def spacious : Session := { vacant 2 with cluster := stocked }

theorem spacious_reachable : spacious.Reachable := (vacant_reachable 2).step (.elsewhere stocked)

theorem sqlServer_kafka_ids : sqlServer.id ≠ kafka.id := by decide +kernel

/-- Two classes are attached one after the other. -/
theorem exists_both_attached (c d : StreamClass) (ids : c.id ≠ d.id)
    (kinds : c.spec.kindRef ≠ d.spec.kindRef) :
    ∃ u, spacious.PerformsBoth others now now' (.attach c) (.attach d) (.ok ()) (.ok ()) u := by
  have inserted : (vacant 2).supervisor.registry.insert c = .ok (holding 2 c) :=
    ClassRegistry.insert_of_room rfl (Nat.zero_lt_two)
  obtain ⟨k, first⟩ := exists_attached (s := spacious.supervisor) rfl rfl inserted
  have free : (holding 2 c).get? d.spec.kindRef = none := by rw [get?_holding, if_neg kinds.symm]
  have room : (holding 2 c).size < (holding 2 c).capacity := Nat.lt_succ_self 1
  have unhandled : Table.get? d.id (sole 2 c).handles = none :=
    (Supervisor.handle?_spawn _ _).trans (if_neg ids.symm)
  obtain ⟨k', second⟩ := exists_attached (s := sole 2 c) rfl unhandled
    (ClassRegistry.insert_of_room free room)
  exact ⟨_, _, ⟨Goes.amid first, _, rfl, rfl⟩, Goes.amid second, _, rfl, rfl⟩

theorem spacious_separates : spacious.supervisor.roster.Separates (.attach sqlServer) (.attach kafka) where
  ids := sqlServer_kafka_ids
  kinds := by
    rintro kind (own | ⟨d, found, -⟩) (other | ⟨d', found', -⟩)
    · exact absurd (own.trans other.symm) (by decide)
    · cases found'
    · cases found
    · cases found
  room := by decide +kernel

/-- A class that is attached can be detached while one for another kind is attached. -/
theorem served_separates :
    served.supervisor.roster.Separates (.detach sqlServer) (.attach kafka) where
  ids := sqlServer_kafka_ids
  kinds := by
    have unattached : served.supervisor.class? kafka.id = none :=
      (Supervisor.class?_spawn _ _).trans (if_neg sqlServer_kafka_ids.symm)
    have involved : ∀ kind, served.supervisor.roster.Involves sqlServer kind →
        sqlServer.spec.kindRef = kind := by
      rintro kind (own | ⟨d, found, own⟩)
      · exact own
      · obtain rfl : sqlServer = d := Option.some.inj (served_attached.symm.trans found)
        exact own
    rintro kind own (other | ⟨d, found, -⟩)
    · exact absurd ((involved kind own).trans other.symm) (by decide)
    · exact nomatch unattached.symm.trans found
  room := by decide +kernel

/-- Whichever of two classes is attached first, both are, and both are told; and one that is attached can
be detached before or after the other one is attached. -/
theorem two_kinds_in_either_order :
    (spacious.Reachable ∧ spacious.IsIdle ∧
      spacious.supervisor.roster.Separates (.attach sqlServer) (.attach kafka) ∧
      ∃ u u', spacious.PerformsBoth (fun _ _ => False) "1" "2" (.attach sqlServer) (.attach kafka)
          (.ok ()) (.ok ()) u ∧
        spacious.PerformsBoth (fun _ _ => False) "2" "1" (.attach kafka) (.attach sqlServer)
          (.ok ()) (.ok ()) u' ∧
        u'.supervisor.registry = u.supervisor.registry ∧
        (∀ ref, u'.cluster.classStatus? ref = u.cluster.classStatus? ref) ∧
        (u.cluster.classStatus? sqlServer.reference).map (fun s => (ClassStatus.ofStored s).phase) =
          some (some .ready)) ∧
    (served.Reachable ∧ served.IsIdle ∧
      served.supervisor.roster.Separates (.detach sqlServer) (.attach kafka) ∧
      ∃ ra rb u u', served.PerformsBoth (fun _ _ => True) "1" "2" (.detach sqlServer) (.attach kafka)
          ra rb u ∧
        served.PerformsBoth (fun _ _ => True) "2" "1" (.attach kafka) (.detach sqlServer) rb ra u' ∧
        u'.supervisor.registry = u.supervisor.registry) := by
  constructor
  · obtain ⟨u, both⟩ := exists_both_attached sqlServer kafka sqlServer_kafka_ids (by decide)
    obtain ⟨u', both'⟩ := exists_both_attached kafka sqlServer sqlServer_kafka_ids.symm (by decide)
    obtain ⟨-, either, -⟩ := @kinds_are_independent spacious (fun _ _ => False) "1" "2" _ _
      spacious_reachable (vacant_idle 2) spacious_separates
    obtain ⟨-, -, -, registry, statuses⟩ := either _ _ _ _ _ _ both both'
    have references : sqlServer.reference ≠ kafka.reference := by decide
    have spares : ∀ ref, SparesStatus (fun _ _ => False) ref := fun _ _ _ => False.elim
    refine ⟨spacious_reachable, vacant_idle 2, spacious_separates, u, u', both, both', registry,
      fun ref => statuses references ref (spares ref), ?_⟩
    rw [both.status_eq spacious_reachable (vacant_idle 2) spacious_separates references (spares _)]
    decide +kernel
  · obtain ⟨exist, either, -⟩ := @kinds_are_independent served (fun _ _ => True) "1" "2" _ _
      served_reachable served_idle served_separates
    obtain ⟨⟨ra, rb, u, both⟩, rb', ra', u', both'⟩ := exist fun _ => trivial
    obtain ⟨rfl, rfl, -, registry, -⟩ := either _ _ _ _ _ _ both both'
    exact ⟨served_reachable, served_idle, served_separates, ra', rb', u, u', both, both', registry⟩

end Session

end StreamOperator
