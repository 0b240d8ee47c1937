import StreamOperator.Proofs.Cluster.Writes
import StreamOperator.Proofs.Handler.Templates
import StreamOperator.Proofs.Reconcile.World
import StreamOperator.Proofs.Status.Stability

/-!
# Commands that are carried out twice

A command that is carried out again answers the same and changes nothing, whatever operations fail and
whatever the time is by then (`handling_again`). Most commands look at one entry and write what follows
from it (`Cluster.amend`); of these it is enough that nothing follows from what was written. The start of
a job is taken apart into the job that is prepared, the request to create it, and the status that tells of
a failure.
-/

set_option autoImplicit false

namespace StreamOperator

/-! ## Amendments -/

namespace Cluster

/-- Requests what is stored and writes what follows from it, if anything does. -/
def amend (reading writing : String) (next : Cluster → Option Cluster) (k : Cluster) :
    Except Failure Unit × Cluster :=
  if k.failing.contains reading then (.error injected, k)
  else match next k with
    | none => (.ok (), k)
    | some k' => if k.failing.contains writing then (.error injected, k) else (.ok (), k')

theorem amend_snd (reading writing : String) (next : Cluster → Option Cluster) (k : Cluster) :
    (amend reading writing next k).2 = k ∨ next k = some (amend reading writing next k).2 := by
  unfold amend
  split
  · exact .inl rfl
  · split
    · exact .inl rfl
    · rename_i written
      split
      · exact .inl rfl
      · exact .inr written

/-- An amendment is not made again if nothing follows from what it wrote. -/
theorem amend_amend {reading writing : String} {next next' : Cluster → Option Cluster} {k : Cluster}
    (same : next' k = none ↔ next k = none)
    (written : ∀ k', next k = some k' → k'.failing = k.failing ∧ next' k' = none) :
    amend reading writing next' (amend reading writing next k).2 = amend reading writing next k := by
  by_cases refused : k.failing.contains reading = true
  · simp only [amend, if_pos refused]
  · cases result : next k with
    | none => simp only [amend, if_neg refused, result, same.2 result]
    | some k' =>
      obtain ⟨failing, done⟩ := written k' result
      by_cases failed : k.failing.contains writing = true
      · obtain ⟨k'', result'⟩ := Option.ne_none_iff_exists'.1 fun none => by
          rw [same.1 none] at result
          cases result
        simp only [amend, if_neg refused, result, result', if_pos failed]
      · simp only [amend, if_neg refused, result, if_neg failed, failing, done]

section

variable {P : Type} [DecidableEq P] (c : Coordinates) (space name : String)
  (current : Resource → Status P) (encode : Status P → Json)

/-- The cluster with the status that a resource is to have, if it has another one. -/
def restate (now : String) (phase : P) (pending : List Condition) (k : Cluster) : Option Cluster :=
  (k.resource? c space name).bind fun r => ((current r).advance now phase pending).map fun s =>
    k.afterResource ⟨c.plural, space, name⟩ { r with data := r.data.insert "status" (encode s) }
      (patchCall c space name (encode s))

/-- A status is written if there is another one. -/
theorem restate_apply (now : String) (phase : P) (pending : List Condition) (k : Cluster) :
    ((do
        match ← getResource c space name with
        | none => return none
        | some r => return ((current r).advance now phase pending).map encode : Act Cluster (Option Json))
      >>= fun prepared => match prepared with
        | none => pure ()
        | some status => patchStatus c space name status) k
      = amend "get_custom_resource" "patch_custom_resource_status"
          (restate c space name current encode now phase pending) k := by
  rw [bind_assoc, getResource_bind, amend, restate]
  split
  · rfl
  · cases found : k.resource? c space name with
    | none => rfl
    | some r =>
      simp only [pure_bind, Option.bind_some]
      cases (current r).advance now phase pending with
      | none => rfl
      | some s => exact patchStatus_of_found found _

variable {current encode} (read : ∀ r s version, current (restated r (encode s) version) = s)

include read in
/-- A status that is read as it was written is written once. -/
theorem amend_restate {pending : List Condition} (distinct : (pending.map Condition.type).Nodup)
    (now later : String) (phase : P) (reading writing : String) (k : Cluster) :
    amend reading writing (restate c space name current encode later phase pending)
        (amend reading writing (restate c space name current encode now phase pending) k).2
      = amend reading writing (restate c space name current encode now phase pending) k := by
  refine amend_amend ?_ fun k' result => ?_
  · simp only [restate, Option.bind_eq_none_iff, Option.map_eq_none_iff,
      Status.advance_eq_none_iff distinct now later]
  · obtain ⟨r, found, written⟩ := Option.bind_eq_some_iff.1 result
    obtain ⟨s, advanced, rfl⟩ := Option.map_eq_some_iff.1 written
    refine ⟨rfl, ?_⟩
    rw [restate, resource?, afterResource_target, Option.bind_some, Option.map_eq_none_iff]
    rw [← read r s k.nextVersion] at advanced
    exact Status.advance_of_advance distinct advanced

end

end Cluster

theorem StreamPhase.nodup_conditions (phase : StreamPhase) (reason message : String) :
    ((phase.conditions reason message).map Condition.type).Nodup := by
  have types : (phase.conditions reason message).map Condition.type
      = [Condition.ready, Condition.error] := rfl
  rw [types]
  decide

theorem ClassPhase.nodup_conditions (phase : ClassPhase) (reason message : String) :
    ((phase.conditions reason message).map Condition.type).Nodup := List.pairwise_singleton _ _

namespace Handler

/-- The handler at another time. -/
def atTime {σ : Type} (h : Handler σ) (now : String) : Handler σ := { h with now := now }

variable {h : Handler Cluster} {stream : StreamRef} {k : Cluster} {pending : List Condition}

/-! ## Statuses -/

/-- The status that the conditions of a stream are merged into. -/
def currentStatus (c : Coordinates) (r : Resource) : StreamStatus :=
  (Definition.mk r c).status?.getD {}

theorem currentStatus_restated (c : Coordinates) (r : Resource) (s : StreamStatus) (version : String) :
    currentStatus c (Cluster.restated r s.encode version) = s := by
  have stored : (Cluster.restated r s.encode version).data.get? "status" = some s.encode :=
    Dictionary.get?_insert_self _ _ _
  rw [currentStatus, Definition.status?, stored, Option.bind_some, StreamStatus.decode_encode]
  rfl

/-- The status that the conditions of a class are merged into. -/
def currentClassStatus (r : Resource) : ClassStatus := (classStatus? r).getD {}

theorem currentClassStatus_restated (r : Resource) (s : ClassStatus) (version : String) :
    currentClassStatus (Cluster.restated r s.encode version) = s := by
  have stored : (Cluster.restated r s.encode version).data.get? "status" = some s.encode :=
    Dictionary.get?_insert_self _ _ _
  rw [currentClassStatus, classStatus?, stored, Option.bind_some, ClassStatus.decode_encode]
  rfl

theorem updateStatus_apply (inMemory : h.api = Cluster.api) (phase : StreamPhase)
    (pending : List Condition) (k : Cluster) : h.updateStatus stream phase pending k =
      Cluster.amend "get_custom_resource" "patch_custom_resource_status"
        (Cluster.restate stream.coordinates stream.space stream.name (currentStatus stream.coordinates)
          StreamStatus.encode h.now phase pending) k := by
  unfold updateStatus prepareStreamStatus
  rw [inMemory]
  exact Cluster.restate_apply _ _ _ _ _ _ _ _ k

theorem setClassStatus_apply (inMemory : h.api = Cluster.api) (c : ClassRef) (phase : ClassPhase)
    (pending : List Condition) (k : Cluster) : h.setClassStatus c phase pending k =
      Cluster.amend "get_custom_resource" "patch_custom_resource_status"
        (Cluster.restate StreamClass.coordinates c.space c.name currentClassStatus ClassStatus.encode
          h.now phase pending) k := by
  unfold setClassStatus prepareClassStatus commitClassStatus
  rw [inMemory]
  exact Cluster.restate_apply _ _ _ _ _ _ _ _ k

theorem updateStatus_again (inMemory : h.api = Cluster.api)
    (distinct : (pending.map Condition.type).Nodup) (phase : StreamPhase) (later : String)
    (k : Cluster) : (h.atTime later).updateStatus stream phase pending
      (h.updateStatus stream phase pending k).2 = h.updateStatus stream phase pending k := by
  rw [updateStatus_apply inMemory, updateStatus_apply (h := h.atTime later) inMemory]
  exact Cluster.amend_restate _ _ _ (currentStatus_restated _) distinct _ _ _ _ _ _

theorem setClassStatus_again (inMemory : h.api = Cluster.api) (c : ClassRef)
    (distinct : (pending.map Condition.type).Nodup) (phase : ClassPhase) (later : String)
    (k : Cluster) : (h.atTime later).setClassStatus c phase pending
      (h.setClassStatus c phase pending k).2 = h.setClassStatus c phase pending k := by
  rw [setClassStatus_apply inMemory, setClassStatus_apply (h := h.atTime later) inMemory]
  exact Cluster.amend_restate _ _ _ currentClassStatus_restated distinct _ _ _ _ _ _

/-! ## Annotations -/

/-- The operation that reads a target. -/
def readingOf : AnnotationTarget → String
  | .definition _ => "get_custom_resource"
  | .job _ _ => "get_job"

/-- The operation that annotates a target. -/
def writingOf : AnnotationTarget → String
  | .definition _ => "annotate_resource"
  | .job _ _ => "annotate_job"

/-- The cluster with the annotation, if there is something to write. -/
def reannotate (target : AnnotationTarget) (key : String) (value expected : Option String)
    (k : Cluster) : Option Cluster :=
  match target with
  | .definition stream =>
    (k.resource? stream.coordinates stream.space stream.name).bind fun r =>
      if shouldAnnotate (some (r.metadata.annotation? key)) value expected then
        some (k.afterResource stream.key { r with metadata := r.metadata.annotate key value }
          (Cluster.annotateCall stream.coordinates stream.space stream.name key value))
      else none
  | .job space name =>
    (k.job? space name).bind fun job =>
      if shouldAnnotate (some (job.metadata.annotation? key)) value expected then
        some (k.afterJob ⟨space, name⟩ { job with metadata := job.metadata.annotate key value }
          (Cluster.annotateJobCall space name key value))
      else none

/-- The result of an operation, if one on something that is gone counts as done. -/
def forgiven : Except Failure Unit → Except Failure Unit
  | .ok () => .ok ()
  | .error e => if e.isNotFound then .ok () else .error e

theorem forgive_apply {σ : Type} (act : Act σ Unit) (s : σ) :
    (do
      match ← act.attempt with
      | .ok () => return
      | .error e => if e.isNotFound then return else throw e : Act σ Unit) s =
    (forgiven (act s).1, (act s).2) := by
  rw [Act.bind_ok (Act.attempt_apply act s)]
  cases act s with
  | mk result s' =>
    cases result with
    | ok _ => rfl
    | error e => cases missing : e.isNotFound <;> simp only [forgiven, missing] <;> rfl

theorem annotate_apply (inMemory : h.api = Cluster.api) (target : AnnotationTarget) (key : String)
    (value expected : Option String) (k : Cluster) : h.annotate target key value expected k =
      Cluster.amend (readingOf target) (writingOf target) (reannotate target key value expected) k := by
  unfold annotate readAnnotation writeAnnotation
  rw [inMemory]
  cases target with
  | definition stream =>
    show ((Cluster.getResource _ _ _ >>= _) >>= _) k = _
    rw [bind_assoc, Cluster.getResource_bind, Cluster.amend, reannotate, readingOf, writingOf]
    split
    · rfl
    · cases found : k.resource? stream.coordinates stream.space stream.name with
      | none => rfl
      | some r =>
        simp only [pure_bind, Option.bind_some, Option.map_some]
        split
        · refine (forgive_apply _ k).trans ?_
          have write : Cluster.api.annotateResource = Cluster.annotateResource := rfl
          rw [write, Cluster.annotateResource_of_found found]
          cases k.failing.contains "annotate_resource" <;> rfl
        · rfl
  | job space name =>
    show ((Cluster.getJob _ _ >>= _) >>= _) k = _
    rw [bind_assoc, Cluster.getJob_bind, Cluster.amend, reannotate, readingOf, writingOf]
    split
    · rfl
    · cases found : k.job? space name with
      | none => rfl
      | some job =>
        simp only [pure_bind, Option.bind_some, Option.map_some]
        split
        · refine (forgive_apply _ k).trans ?_
          have write : Cluster.api.annotateJob = Cluster.annotateJob := rfl
          rw [write, Cluster.annotateJob_of_found found]
          cases k.failing.contains "annotate_job" <;> rfl
        · rfl

theorem annotate_again (inMemory : h.api = Cluster.api) (target : AnnotationTarget) (key : String)
    (value expected : Option String) (later : String) (k : Cluster) :
    (h.atTime later).annotate target key value expected (h.annotate target key value expected k).2
      = h.annotate target key value expected k := by
  rw [annotate_apply inMemory, annotate_apply (h := h.atTime later) inMemory]
  refine Cluster.amend_amend Iff.rfl fun k' result => ?_
  cases target with
  | definition stream =>
    obtain ⟨r, -, written⟩ := Option.bind_eq_some_iff.1 result
    obtain ⟨-, written⟩ := Option.ite_none_right_eq_some.1 written
    obtain rfl := Option.some.inj written
    refine ⟨rfl, ?_⟩
    rw [reannotate, Cluster.resource?, StreamRef.key, Cluster.afterResource_target, Option.bind_some]
    refine if_neg ?_
    show ¬shouldAnnotate (some ((r.metadata.annotate key value).annotation? key)) value expected = true
    simp [shouldAnnotate]
  | job space name =>
    obtain ⟨job, -, written⟩ := Option.bind_eq_some_iff.1 result
    obtain ⟨-, written⟩ := Option.ite_none_right_eq_some.1 written
    obtain rfl := Option.some.inj written
    refine ⟨rfl, ?_⟩
    rw [reannotate, Cluster.job?, Cluster.afterJob_target, Option.bind_some]
    refine if_neg ?_
    show ¬shouldAnnotate (some ((job.metadata.annotate key value).annotation? key)) value expected = true
    simp [shouldAnnotate]

theorem stopJob_apply (inMemory : h.api = Cluster.api) (space name : String) (k : Cluster) :
    h.stopJob space name k = Cluster.amend "delete_job" "delete_job" (fun k =>
      (k.job? space name).map fun _ =>
        k.afterDeletion ⟨space, name⟩ ("delete_job " ++ space ++ "/" ++ name)) k := by
  unfold stopJob
  rw [inMemory]
  refine (forgive_apply _ k).trans ?_
  have delete : Cluster.api.deleteJob = Cluster.deleteJob := rfl
  rw [delete, Cluster.deleteJob_apply, Cluster.amend]
  cases failing : k.failing.contains "delete_job" with
  | true => rfl
  | false => cases k.job? space name <;> rfl

theorem stopJob_again (inMemory : h.api = Cluster.api) (space name later : String) (k : Cluster) :
    (h.atTime later).stopJob space name (h.stopJob space name k).2 = h.stopJob space name k := by
  rw [stopJob_apply inMemory, stopJob_apply (h := h.atTime later) inMemory]
  refine Cluster.amend_amend Iff.rfl fun k' result => ?_
  obtain ⟨job, -, rfl⟩ := Option.map_eq_some_iff.1 result
  exact ⟨rfl, Option.map_eq_none_iff.2 Cluster.afterDeletion_target⟩

/-! ## Jobs -/

variable {d : Definition} {backfilling : Bool}

/-- A job that cannot be prepared is a matter of the status at most. -/
theorem startJob_of_fault {e : Failure} (fault : (h.prepareJob d backfilling k).1 = .error e)
    (inMemory : h.api = Cluster.api) : h.startJob d backfilling k =
      match configurationFault? e with
      | some reason => h.updateStatus d.reference .failed
          (StreamPhase.conditions .failed Condition.Reason.internalError reason) k
      | none => (.error e, k) := by
  have unprepared : h.prepareJob d backfilling k = (.error e, k) :=
    Prod.ext fault (prepareJob_reads inMemory backfilling k)
  unfold startJob
  rw [Act.bind_ok (Act.attempt_apply _ k), unprepared]
  simp only
  cases configurationFault? e <;> rfl

/-- The status of a stream whose job was refused. -/
def refuseJob (h : Handler Cluster) (d : Definition) (e : Failure) : Act Cluster Unit := do
  h.updateStatus d.reference .failed (StreamPhase.conditions .failed Condition.Reason.jobStartFailed
    ("Failed to start job: " ++ e.message))
  throw e

/-- A job that was prepared is sent unless its name is taken. -/
theorem startJob_of_prepared {job : Job} (prepared : (h.prepareJob d backfilling k).1 = .ok job)
    (inMemory : h.api = Cluster.api) : h.startJob d backfilling k =
      if k.failing.contains "send_job" then h.refuseJob d Cluster.injected k
      else if (k.job? d.space job.name).isSome then (.ok (), k)
      else (.ok (), k.afterJob ⟨d.space, job.name⟩ job
        ("send_job " ++ d.space ++ "/" ++ job.name)) := by
  have prepared : h.prepareJob d backfilling k = (.ok job, k) :=
    Prod.ext prepared (prepareJob_reads inMemory backfilling k)
  unfold startJob
  rw [Act.bind_ok (Act.attempt_apply _ k), prepared]
  simp only
  have send : h.api.sendJob = Cluster.sendJob := by rw [inMemory]; rfl
  rw [send, Act.bind_ok (Act.attempt_apply _ k), Cluster.sendJob_apply]
  cases k.failing.contains "send_job" with
  | true => rfl
  | false => cases (k.job? d.space job.name).isSome <;> rfl

/-- A job that was refused is refused again, with the same status. -/
theorem refuseJob_again (inMemory : h.api = Cluster.api) (d : Definition) (e : Failure)
    (later : String) (k : Cluster) :
    (h.atTime later).refuseJob d e (h.refuseJob d e k).2 = h.refuseJob d e k := by
  unfold refuseJob
  rw [Act.bind_snd fun _ => .throw e, Act.bind_apply, Act.bind_apply,
    updateStatus_again inMemory (StreamPhase.nodup_conditions _ _ _)]

/-- A status renews the resources. -/
theorem updateStatus_renewed (inMemory : h.api = Cluster.api) (phase : StreamPhase)
    (pending : List Condition) (k : Cluster) :
    k.Renewed (h.updateStatus stream phase pending k).2 := by
  refine (updateStatus_edits inMemory phase pending k).renewed ?_
  rintro r _ ⟨status, version, rfl⟩
  exact r.rewritten_restated status version

theorem refuseJob_renewed (inMemory : h.api = Cluster.api) (d : Definition) (e : Failure)
    (k : Cluster) : k.Renewed (h.refuseJob d e k).2 := by
  unfold refuseJob
  rw [Act.bind_snd fun _ => .throw e]
  exact updateStatus_renewed inMemory _ _ k

theorem startJob_again (inMemory : h.api = Cluster.api) (d : Definition) (backfilling : Bool)
    (later : String) (k : Cluster) : (h.atTime later).startJob d backfilling
      (h.startJob d backfilling k).2 = h.startJob d backfilling k := by
  have inMemory' : (h.atTime later).api = Cluster.api := inMemory
  have stays : ∀ {k'}, k.Renewed k' → ((h.atTime later).prepareJob d backfilling k').1
      = (h.prepareJob d backfilling k).1 := prepareJob_fst (h := h) inMemory
  cases result : (h.prepareJob d backfilling k).1 with
  | error e =>
    rw [result] at stays
    rw [startJob_of_fault result inMemory]
    cases fault : configurationFault? e with
    | none =>
      simp only
      rw [startJob_of_fault (stays (.refl k)) inMemory', fault]
    | some reason =>
      simp only
      rw [startJob_of_fault (stays (updateStatus_renewed inMemory _ _ k)) inMemory', fault]
      exact updateStatus_again inMemory (StreamPhase.nodup_conditions _ _ _) _ _ _
  | ok job =>
    rw [result] at stays
    have first := startJob_of_prepared result inMemory
    cases failing : k.failing.contains "send_job" with
    | true =>
      rw [failing, if_pos rfl] at first
      rw [first]
      have renewed := refuseJob_renewed inMemory d Cluster.injected k
      rw [startJob_of_prepared (stays renewed) inMemory', renewed.failing, failing, if_pos rfl]
      exact refuseJob_again inMemory d _ later k
    | false =>
      rw [failing, if_neg Bool.false_ne_true] at first
      cases taken : (k.job? d.space job.name).isSome with
      | true =>
        rw [taken, if_pos rfl] at first
        rw [first, startJob_of_prepared (stays (.refl k)) inMemory', failing, taken]
        rfl
      | false =>
        rw [taken, if_neg Bool.false_ne_true] at first
        have renewed : k.Renewed (k.afterJob ⟨d.space, job.name⟩ job
            ("send_job " ++ d.space ++ "/" ++ job.name)) := .of_resources rfl rfl
        rw [first, startJob_of_prepared (stays renewed) inMemory', Cluster.job?,
          Cluster.afterJob_failing, failing, Cluster.afterJob_target]
        rfl

end Handler

/-! ## Commands -/

/-- The conditions of a status that a command asks for are of different types. -/
def Command.Unambiguous : Command → Prop
  | updateStatus _ _ conditions | setClassStatus _ _ conditions =>
    (conditions.map Condition.type).Nodup
  | _ => True

theorem Handler.handle_again {h : Handler Cluster} (inMemory : h.api = Cluster.api) {command : Command}
    (unambiguous : command.Unambiguous) (later : String) (k : Cluster) :
    (h.atTime later).handle command (h.handle command k).2 = h.handle command k := by
  cases command with
  | startJob d backfilling => exact startJob_again inMemory d backfilling later k
  | stopJob space name => exact stopJob_again inMemory space name later k
  | annotate target key value => exact annotate_again inMemory target key (some value) none later k
  | unannotate target key expected => exact annotate_again inMemory target key none expected later k
  | updateStatus stream phase conditions => exact updateStatus_again inMemory unambiguous phase later k
  | setClassStatus c phase conditions => exact setClassStatus_again inMemory c unambiguous phase later k

/-- A command that is carried out again answers the same and changes nothing. The status commands that
the operator makes up are among those. -/
theorem handling_again :
    (∀ (classes : String → Option StreamClass) (now later : String) (k : Cluster) (command : Command),
      command.Unambiguous →
      (Handler.mk Cluster.api classes later).handle command
          ((Handler.mk Cluster.api classes now).handle command k).2
        = (Handler.mk Cluster.api classes now).handle command k) ∧
    (∀ stream phase reason message,
      (Command.statusWithReason stream phase reason message).Unambiguous) ∧
    (∀ stream phase, (Command.enterPhase stream phase).Unambiguous) ∧
    (∀ d, (Command.crashLoopStatus d).Unambiguous) ∧
    (∀ stream message, (Command.internalError stream message).Unambiguous) ∧
    (∀ c phase reason message, (Command.classStatus c phase reason message).Unambiguous) :=
  ⟨fun classes now later k _ unambiguous =>
      Handler.handle_again (h := ⟨Cluster.api, classes, now⟩) rfl unambiguous later k,
    fun _ phase _ _ => phase.nodup_conditions _ _, fun _ phase => phase.nodup_conditions _ _,
    fun _ => StreamPhase.nodup_conditions _ _ _, fun _ _ => StreamPhase.nodup_conditions _ _ _,
    fun _ phase _ _ => phase.nodup_conditions _ _⟩

section Orders

/-- The status of the orders is to tell that they are suspended. -/
def suspendOrders : Command := .enterPhase (Orders.definition "1" none).reference .suspended

def onFirstDay : Handler Cluster := ⟨Cluster.api, fun _ => none, "2024-01-01T00:00:00Z"⟩

def onNextDay : Handler Cluster := ⟨Cluster.api, fun _ => none, "2024-01-02T00:00:00Z"⟩

/-- The status is written on the first day, and not again on the next. -/
theorem suspension_again : suspendOrders.Unambiguous ∧
    (onFirstDay.handle suspendOrders Orders.atRest.cluster).2.calls
      = ["patch_status order-streams/streams/orders SUSPENDED"] ∧
    onNextDay.handle suspendOrders (onFirstDay.handle suspendOrders Orders.atRest.cluster).2
      = onFirstDay.handle suspendOrders Orders.atRest.cluster := by
  have unambiguous : suspendOrders.Unambiguous := StreamPhase.nodup_conditions _ _ _
  exact ⟨unambiguous, by decide +kernel, handling_again.1 _ _ _ _ _ unambiguous⟩

end Orders

end StreamOperator
