import StreamOperator.Proofs.Cluster.Contention
import StreamOperator.Proofs.Handler.Repetition

/-!
# Annotations that are removed if they have a value

A removal with an expected value is to leave every other value alone. It reads the annotation first and
then writes, and the write says nothing of the value that was read. What others write in between is
removed with the rest: all depends on what they leave there last (`guarded_removal_iff`).
-/

set_option autoImplicit false

namespace StreamOperator

/-! ## Annotations of a target -/

namespace Cluster

variable {k : Cluster} {target : AnnotationTarget} {key other : String} {value : Option String}

/-- The value of an annotation on its target; none when the target is gone. -/
def annotation? (k : Cluster) (key : String) : AnnotationTarget → Option (Option String)
  | .definition stream =>
    (k.resource? stream.coordinates stream.space stream.name).map fun r => r.metadata.annotation? key
  | .job space name => (k.job? space name).map fun job => job.metadata.annotation? key

/-- The operation that sets or removes an annotation. -/
def annotateTarget (target : AnnotationTarget) (key : String) (value : Option String) :
    Act Cluster Unit :=
  match target with
  | .definition stream => annotateResource stream.coordinates stream.space stream.name key value
  | .job space name => annotateJob space name key value

/-- The cluster after annotations of a target were written, one after the other. -/
def rewritten (target : AnnotationTarget) (writes : List (String × Option String)) (k : Cluster) :
    Cluster :=
  writes.foldl (fun k write => (annotateTarget target write.1 write.2 k).2) k

/-- The value that writes leave under a key. -/
def valueAfter (key : String) (value : Option String) (writes : List (String × Option String)) :
    Option String :=
  writes.foldl (fun value write => if write.1 = key then write.2 else value) value

end Cluster

theorem Metadata.annotation?_annotate (m : Metadata) (key other : String) (value : Option String) :
    (m.annotate key value).annotation? other = if key = other then value else m.annotation? other := by
  split
  · rename_i same
    rw [same, annotation?_annotate_self]
  · rename_i differ
    exact m.annotation?_annotate_of_ne (Ne.symm differ) value

namespace Cluster

variable {k : Cluster} {target : AnnotationTarget} {key other : String} {value : Option String}

theorem failing_annotateTarget : (annotateTarget target key value k).2.failing = k.failing := by
  cases target with
  | definition stream => exact (annotateResource_edits key value k).failing
  | job space name => exact (annotateJob_cases space name key value k).2.1

/-- A write sets or removes the annotation on a target that is there, and leaves the others. -/
theorem annotation?_annotateTarget (works : k.failing = []) :
    (annotateTarget target key value k).2.annotation? other target =
      (k.annotation? other target).map fun current => if key = other then value else current := by
  cases target with
  | definition stream =>
    cases found : k.resource? stream.coordinates stream.space stream.name with
    | none =>
      have missing : (annotateResource stream.coordinates stream.space stream.name key value k).2.resource?
          stream.coordinates stream.space stream.name = none := by
        rcases (annotateResource_edits key value k).resources with same | ⟨r, -, stored, -⟩
        · rw [resource?, same]
          exact found
        · cases found.symm.trans stored
      rw [annotateTarget, annotation?, annotation?, missing, found]
      rfl
    | some r =>
      have written := annotateResource_of_found found key value
      rw [works] at written
      rw [annotateTarget, annotation?, annotation?, written, found]
      show Option.map _ (Table.get? _ (k.afterResource _ _ _).resources) = _
      rw [afterResource_target]
      exact congrArg some (r.metadata.annotation?_annotate key other value)
  | job space name =>
    cases found : k.job? space name with
    | none =>
      have missing : (annotateJob space name key value k).2.job? space name = none := by
        rcases (annotateJob_cases space name key value k).2.2 with same | ⟨-, job, stored, -⟩
        · rw [job?, same]
          exact found
        · cases found.symm.trans stored
      rw [annotateTarget, annotation?, annotation?, missing, found]
      rfl
    | some job =>
      have written := annotateJob_of_found found key value
      rw [works] at written
      rw [annotateTarget, annotation?, annotation?, written, found]
      show Option.map _ (Table.get? _ (k.afterJob _ _ _).jobs) = _
      rw [afterJob_target]
      exact congrArg some (job.metadata.annotation?_annotate key other value)

theorem failing_rewritten (writes : List (String × Option String)) :
    (k.rewritten target writes).failing = k.failing := by
  induction writes generalizing k with
  | nil => rfl
  | cons write rest ih => exact ih.trans failing_annotateTarget

/-- Writes leave on a target that is there what the last of them under a key says. -/
theorem annotation?_rewritten (works : k.failing = []) (writes : List (String × Option String)) :
    (k.rewritten target writes).annotation? key target =
      (k.annotation? key target).map fun current => valueAfter key current writes := by
  induction writes generalizing k with
  | nil => exact Option.map_id'.symm
  | cons write rest ih =>
    have works' : (annotateTarget target write.1 write.2 k).2.failing = [] :=
      failing_annotateTarget.trans works
    refine (ih works').trans ?_
    rw [annotation?_annotateTarget works, Option.map_map]
    rfl

end Cluster

/-! ## The removal -/

namespace Shared

/-- A cluster that another client writes to between the first call and the second. -/
def between (k : Cluster) (target : AnnotationTarget) (writes : List (String × Option String))
    (reading writing : Fate) : Shared where
  cluster := k
  turns
    | 0 => { fate := reading }
    | 1 => { others := Cluster.rewritten target writes, fate := writing }
    | _ => {}

end Shared

namespace Handler

variable {h : Handler Shared} {target : AnnotationTarget} {key expected : String} {s : Shared}

theorem readAnnotation_of_answered (shared : h.api = Shared.api) (works : s.met.failing = [])
    (answered : (s.turns 0).fate.isAnswered = true) :
    h.readAnnotation target key s = (.ok (s.met.annotation? key target), s.next s.met) := by
  unfold readAnnotation
  rw [shared]
  cases target with
  | definition stream => exact Shared.getResource_bind works answered _
  | job space name => exact Shared.getJob_bind works answered _

theorem readAnnotation_of_unanswered (shared : h.api = Shared.api) (target : AnnotationTarget)
    (key : String) (unanswered : (s.turns 0).fate.isAnswered = false) :
    ∃ e, h.readAnnotation target key s = (.error e, s.next s.met) := by
  unfold readAnnotation
  rw [shared]
  cases target with
  | definition stream => exact Shared.bind_of_unanswered Cluster.getResource_reads unanswered _
  | job space name => exact Shared.bind_of_unanswered Cluster.getJob_reads unanswered _

theorem writeAnnotation_apply (shared : h.api = Shared.api) (target : AnnotationTarget) (key : String)
    (value : Option String) (s : Shared) : h.writeAnnotation target key value s =
      (forgiven (Shared.call (Cluster.annotateTarget target key value) s).1,
        (Shared.call (Cluster.annotateTarget target key value) s).2) := by
  have write := forgive_apply (Shared.call (Cluster.annotateTarget target key value)) s
  unfold writeAnnotation
  rw [shared]
  cases target <;> exact write

theorem writeAnnotation_snd_shared (shared : h.api = Shared.api) (value : Option String) :
    (h.writeAnnotation target key value s).2 =
      s.next (if (s.turns 0).fate.takesEffect then
        (Cluster.annotateTarget target key value s.met).2 else s.met) := by
  rw [writeAnnotation_apply shared, Shared.call_snd]

theorem annotate_of_unanswered (shared : h.api = Shared.api) (target : AnnotationTarget) (key : String)
    (value expected : Option String) (unanswered : (s.turns 0).fate.isAnswered = false) :
    ∃ e, h.annotate target key value expected s = (.error e, s.next s.met) := by
  obtain ⟨e, failed⟩ := readAnnotation_of_unanswered shared target key unanswered
  exact ⟨e, Act.bind_error failed⟩

/-- What was read decides whether there is something to write. -/
theorem annotate_of_answered (shared : h.api = Shared.api) (works : s.met.failing = [])
    (value expected : Option String) (answered : (s.turns 0).fate.isAnswered = true) :
    h.annotate target key value expected s =
      if shouldAnnotate (s.met.annotation? key target) value expected then
        h.writeAnnotation target key value (s.next s.met)
      else (.ok (), s.next s.met) := by
  rw [annotate, Act.bind_ok (readAnnotation_of_answered shared works answered)]
  split <;> rfl

theorem shouldAnnotate_guarded (read : Option (Option String)) :
    shouldAnnotate read none (some expected) = true ↔ read = some (some expected) := by
  rcases read with _ | _ | current <;> simp [shouldAnnotate]

/-- The annotation is removed, whatever its value is by then, if it had the expected value when it was
read. -/
theorem unannotate_snd (shared : h.api = Shared.api) (works : s.met.failing = []) :
    (h.handle (.unannotate target key (some expected)) s).2 =
      let read := s.next s.met
      if (s.turns 0).fate.isAnswered = true ∧ s.met.annotation? key target = some (some expected) then
        read.next (if (s.turns 1).fate.takesEffect then
          (Cluster.annotateTarget target key none read.met).2 else read.met)
      else read := by
  rw [handle]
  cases answered : (s.turns 0).fate.isAnswered with
  | false =>
    obtain ⟨e, failed⟩ := annotate_of_unanswered shared target key none (some expected) answered
    rw [failed, if_neg fun both => Bool.false_ne_true both.1]
  | true =>
    rw [annotate_of_answered shared works none (some expected) answered]
    by_cases found : s.met.annotation? key target = some (some expected)
    · rw [if_pos ((shouldAnnotate_guarded _).2 found), if_pos ⟨rfl, found⟩,
        writeAnnotation_snd_shared shared]
      rfl
    · rw [if_neg fun written => found ((shouldAnnotate_guarded _).1 written),
        if_neg fun both => found both.2]

end Handler

/-- A value of the annotation that is not the expected one is left in place. -/
def Cluster.SparesOthers (key expected : String) (target : AnnotationTarget) (k k' : Cluster) : Prop :=
  ∀ value, value ≠ expected → k.annotation? key target = some (some value) →
    k'.annotation? key target = some (some value)

section

variable {k : Cluster} (works : k.failing = []) (classes : String → Option StreamClass) (now : String)
  (target : AnnotationTarget) (key expected : String) (writes : List (String × Option String))
  (reading writing : Fate)

/-- The cluster after an annotation was to be removed if it has a value. -/
def Shared.afterRemoval (s : Shared) : Cluster :=
  ((Handler.mk Shared.api classes now).handle (.unannotate target key (some expected)) s).2.met

include works

theorem Shared.afterRemoval_between :
    (between k target writes reading writing).afterRemoval classes now target key expected =
      if reading.isAnswered = true ∧ k.annotation? key target = some (some expected) ∧
          writing.takesEffect = true then
        (Cluster.annotateTarget target key none (k.rewritten target writes)).2
      else k.rewritten target writes := by
  unfold afterRemoval
  rw [Handler.unannotate_snd rfl (s := between k target writes reading writing) works]
  show met (if reading.isAnswered = true ∧ k.annotation? key target = some (some expected) then
    next _ (if writing.takesEffect = true then _ else _) else _) = _
  simp only [← and_assoc]
  by_cases read : reading.isAnswered = true ∧ k.annotation? key target = some (some expected)
  · simp only [read, true_and, if_true]
    rfl
  · rw [if_neg read, if_neg fun both => read both.1]
    rfl

/-- The removal spares any other value, unless the annotation had the expected one when it was read, the
write took effect, and what was written to the target in between left another value. -/
theorem guarded_removal_iff :
    Cluster.SparesOthers key expected target (k.rewritten target writes)
        ((Shared.between k target writes reading writing).afterRemoval classes now target key expected) ↔
      (reading.isAnswered = true → k.annotation? key target = some (some expected) →
        writing.takesEffect = true → ∀ value,
          Cluster.valueAfter key (some expected) writes = some value → value = expected) := by
  rw [Shared.afterRemoval_between works]
  split
  · rename_i removed
    obtain ⟨answered, found, written⟩ := removed
    -- the write meets what the others have left, and removes it whatever it is
    have met : (k.rewritten target writes).annotation? key target
        = some (Cluster.valueAfter key (some expected) writes) := by
      rw [Cluster.annotation?_rewritten works, found]
      rfl
    have gone : (Cluster.annotateTarget target key none (k.rewritten target writes)).2.annotation? key
        target = some none := by
      rw [Cluster.annotation?_annotateTarget ((Cluster.failing_rewritten writes).trans works), met,
        Option.map_some, if_pos rfl]
    constructor
    · intro spared _ _ _ value last
      by_contra other
      have kept := spared value other (by rw [met, last])
      cases gone.symm.trans kept
    · intro expects value other stored
      have last := Option.some.inj (met.symm.trans stored)
      exact absurd (expects answered found written value last) other
  · rename_i kept
    refine iff_of_true (fun _ _ stored => stored) fun answered found written => ?_
    exact absurd ⟨answered, found, written⟩ kept

end

section Orders

/-- A reload of the orders is requested. -/
def requestedCluster : Cluster := Orders.cluster (Orders.definition "3" (some .reloadRequested)) []

/-- The definition of the orders. -/
def ordersTarget : AnnotationTarget := .definition (Orders.definition "3" none).reference

/-- Another client suspends the orders, and then asks for a reload again. -/
def renewal : List (String × Option String) :=
  [(Key.state, some StreamState.suspended.text), ("team", some "sales"),
    (Key.state, some StreamState.reloadRequested.text)]

/-- The removal finds the expected value again. -/
theorem renewed_request_is_removed :
    requestedCluster.failing = [] ∧
    Cluster.SparesOthers Key.state StreamState.reloadRequested.text ordersTarget
      (requestedCluster.rewritten ordersTarget renewal)
      ((Shared.between requestedCluster ordersTarget renewal .answered .answered).afterRemoval
        (fun _ => none) "2024-01-01T00:00:00Z" ordersTarget Key.state
        StreamState.reloadRequested.text) := by
  have last : Cluster.valueAfter Key.state (some StreamState.reloadRequested.text) renewal
      = some StreamState.reloadRequested.text := by decide
  refine ⟨rfl, (guarded_removal_iff rfl _ _ _ _ _ _ _ _).2 fun _ _ _ value stored => ?_⟩
  exact (Option.some.inj (last.symm.trans stored)).symm

/-- The orders are suspended after their state was read, and the removal takes them out of the
suspension. -/
theorem newer_suspension_is_removed : ¬ ∀ (k : Cluster) (classes : String → Option StreamClass)
    (now : String) (target : AnnotationTarget) (key expected : String)
    (writes : List (String × Option String)) (reading writing : Fate), k.failing = [] →
    Cluster.SparesOthers key expected target (k.rewritten target writes)
      ((Shared.between k target writes reading writing).afterRemoval classes now target key
        expected) := by
  intro spares
  have spared := spares requestedCluster (fun _ => none) "2024-01-01T00:00:00Z" ordersTarget Key.state
    StreamState.reloadRequested.text [(Key.state, some StreamState.suspended.text)] .answered .answered
    rfl StreamState.suspended.text (by decide) (by decide +kernel)
  exact absurd spared (by decide +kernel)

end Orders

end StreamOperator
