import StreamOperator.Decision.Job
import StreamOperator.Decision.Stream
import StreamOperator.Proofs.Handler.Confinement

/-!
# Suspensions that are kept

Whatever is decided on, and on whichever snapshot of a definition, it leaves the suspension of the stored
definition in place: a request to reload is only taken back where it still is, and a status is no state.
There is one exception. That the job of a stream failed is marked on its definition even when the
definition is suspended (`suspension_is_kept`).
-/

set_option autoImplicit false

namespace StreamOperator

/-! ## States of stored definitions -/

theorem optionRel_bind {α β : Type} {r : α → α → Prop} {f : α → Option β} {before after : Option α}
    (keeps : ∀ a b, r a b → f b = f a) (related : Option.Rel r before after) :
    after.bind f = before.bind f := by
  cases related with
  | none => rfl
  | some related => exact keeps _ _ related

namespace Cluster

variable {k k' : Cluster} {key : ResourceKey}

/-- The state of the definition that is stored under a key. -/
def stateAt? (k : Cluster) (key : ResourceKey) : Option StreamState :=
  (Table.get? key k.resources).bind fun r => r.metadata.state?

theorem annotation?_of_stateAt? {state : StreamState} {r : Resource}
    (found : k.stateAt? key = some state) (stored : Table.get? key k.resources = some r) :
    r.metadata.annotation? Key.state = some state.text := by
  rw [stateAt?, stored, Option.bind_some] at found
  obtain ⟨text, stated, parsed⟩ := Option.bind_eq_some_iff.1 found
  rw [stated, StreamState.text_of_ofText? parsed]

theorem AltersJob.stateAt? {jobKey : JobKey} {change : Option Job → Option Job → Prop}
    (alters : k.AltersJob jobKey change k') : k'.stateAt? key = k.stateAt? key := by
  rw [Cluster.stateAt?, alters.resources, Cluster.stateAt?]

/-- Where resources change in a way that leaves their state the states stay. -/
theorem AltersResource.stateAt? {target : ResourceKey} {change : Resource → Resource → Prop}
    (alters : k.AltersResource target change k')
    (keeps : ∀ r r', change r r' → r'.metadata.state? = r.metadata.state?) :
    k'.stateAt? key = k.stateAt? key := by
  by_cases own : key = target
  · subst own
    exact optionRel_bind keeps alters.resources.target
  · rw [Cluster.stateAt?, alters.resources.elsewhere key own, Cluster.stateAt?]

end Cluster

theorem Resource.AgreesButStatus.state? {r r' : Resource} (agrees : r.AgreesButStatus r') :
    r'.metadata.state? = r.metadata.state? := by
  have annotations : r'.metadata.annotations = r.metadata.annotations :=
    (congrArg Metadata.annotations agrees.metadata :)
  simp only [Metadata.state?, Metadata.annotation?, annotations]

theorem Resource.AgreesButAnnotation.state? {key : String} {r r' : Resource}
    (agrees : r.AgreesButAnnotation key r') (other : Key.state ≠ key) :
    r'.metadata.state? = r.metadata.state? := by
  rw [Metadata.state?, agrees.metadata.others _ other, Metadata.state?]

/-! ## Commands that keep a stored state -/

/-- The command writes no state to a definition, and takes back none but a certain other one. -/
def Command.KeepsStored (kept : StreamState) : Command → Prop
  | annotate (.definition _) key _ => Key.state ≠ key
  | unannotate (.definition _) _ expected =>
    ∃ state, state ≠ kept ∧ expected = some state.text
  | _ => True

theorem StreamState.text_injective : Function.Injective StreamState.text := by
  intro a b same
  rw [← Option.some_inj, ← ofText?_text a, same, ofText?_text b]

section

variable {h : Handler Cluster} {k : Cluster} {key : ResourceKey} {stream : StreamRef}
  {kept : StreamState}

/-- A state that is not the stored one is not taken back. -/
theorem Handler.unannotate_of_stateAt? (inMemory : h.api = Cluster.api) {state : StreamState}
    (other : state ≠ kept) (stated : k.stateAt? stream.key = some kept) :
    (h.annotate (.definition stream) Key.state none (some state.text) k).2 = k := by
  rw [annotate_apply inMemory]
  rcases Cluster.amend_snd _ _ _ k with same | written
  · exact same
  · obtain ⟨r, found, written⟩ := Option.bind_eq_some_iff.1 written
    obtain ⟨due, -⟩ := Option.ite_none_right_eq_some.1 written
    rw [Cluster.annotation?_of_stateAt? stated found] at due
    simp [shouldAnnotate, StreamState.text_injective.ne other.symm] at due

theorem Command.KeepsStored.stateAt? {command : Command} (spares : command.KeepsStored kept)
    (inMemory : h.api = Cluster.api) (stated : k.stateAt? key = some kept) :
    (h.handle command k).2.stateAt? key = some kept := by
  have confined := Command.handle_confined inMemory command k
  rw [← stated]
  cases command with
  | startJob d backfilling =>
    rcases confined with job | resource
    · exact job.stateAt?
    · exact resource.stateAt? fun _ _ agrees => agrees.state?
  | stopJob space name => exact Cluster.AltersJob.stateAt? confined
  | annotate target key' value =>
    cases target with
    | definition stream =>
      exact Cluster.AltersResource.stateAt? confined fun _ _ agrees => agrees.state? spares
    | job space name => exact Cluster.AltersJob.stateAt? confined
  | unannotate target key' expected =>
    cases target with
    | definition stream =>
      obtain ⟨state, other, rfl⟩ := spares
      by_cases own : stream.key = key
      · by_cases named : Key.state = key'
        · subst own named
          rw [Handler.handle, Handler.unannotate_of_stateAt? inMemory other stated]
        · exact Cluster.AltersResource.stateAt? confined fun _ _ agrees => agrees.state? named
      · rw [Cluster.stateAt?, confined.spares.resources key fun same => own (Option.some.inj same),
          Cluster.stateAt?]
    | job space name => exact Cluster.AltersJob.stateAt? confined
  | updateStatus stream phase conditions =>
    exact Cluster.AltersResource.stateAt? confined fun _ _ agrees => agrees.state?
  | setClassStatus ref phase conditions =>
    exact Cluster.AltersResource.stateAt? confined fun _ _ agrees => agrees.state?

/-- To mark a failure replaces the state of the definition that it is marked on, or does nothing. -/
theorem Handler.markCrashLoop_stateAt? (inMemory : h.api = Cluster.api) (d : Definition)
    (k : Cluster) (key : ResourceKey) :
    (h.handle (.markCrashLoop d) k).2.stateAt? key = k.stateAt? key ∨
      d.reference.key = key ∧ (h.handle (.markCrashLoop d) k).2.stateAt? key = some .crashLoop := by
  rw [Command.markCrashLoop, handle, annotate_apply inMemory]
  rcases Cluster.amend_snd _ _ _ k with same | written
  · exact .inl (by rw [same])
  · obtain ⟨r, -, written⟩ := Option.bind_eq_some_iff.1 written
    obtain ⟨-, written⟩ := Option.ite_none_right_eq_some.1 written
    rw [← Option.some.inj written]
    by_cases own : key = d.reference.key
    · subst own
      refine .inr ⟨rfl, ?_⟩
      rw [Cluster.stateAt?, Cluster.afterResource_target, Option.bind_some]
      show (r.metadata.annotate Key.state (some StreamState.crashLoop.text)).state? = _
      rw [Metadata.state?, Metadata.annotation?_annotate_self]
      rfl
    · rw [Cluster.stateAt?, Cluster.afterResource, Table.get?_set_of_ne own, Cluster.stateAt?]
      exact .inl rfl

end

/-! ## Decisions -/

/-- What is decided on: an event of a definition with the job that was found, or an event of a job with
the definition that was found to own it. -/
inductive Occasion where
  | definition (type : EventType) (d : Definition) (found : Option Job)
  | job (type : EventType) (job : Job) (owner : Option Definition)

def Occasion.commands : Occasion → List Command
  | .definition type d found => d.react type found
  | .job type j owner => j.react type owner

/-- What is decided on an event of a definition keeps every state but a request to reload. -/
theorem Definition.keepsStored_of_mem_react {d : Definition} {type : EventType} {found : Option Job}
    {kept : StreamState} (other : StreamState.reloadRequested ≠ kept) :
    ∀ command ∈ d.react type found, command.KeepsStored kept := by
  have drop : (Command.dropReloadRequest d).KeepsStored kept := ⟨.reloadRequested, other, rfl⟩
  cases type with
  | deleted => exact List.forall_mem_nil _
  | added =>
    cases found with
    | none =>
      simp only [react, onAdded]
      split <;> exact List.forall_mem_singleton.2 trivial
    | some job =>
      simp only [react, onAdded]
      split
      · exact List.forall_mem_singleton.2 trivial
      · split <;> exact List.forall_mem_singleton.2 trivial
  | modified =>
    cases found with
    | none =>
      simp only [react, onModified]
      split
      · exact List.forall_mem_singleton.2 trivial
      · split
        · exact List.forall_mem_singleton.2 trivial
        · split
          · exact List.forall_mem_cons.2 ⟨drop, List.forall_mem_singleton.2 trivial⟩
          · exact List.forall_mem_singleton.2 trivial
    | some job =>
      simp only [react, onModified]
      split
      · exact List.forall_mem_singleton.2 trivial
      · split
        · exact List.forall_mem_cons.2 ⟨drop, List.forall_mem_singleton.2 trivial⟩
        · split
          · exact List.forall_mem_singleton.2 trivial
          · exact List.forall_mem_nil _

/-- What is decided on an event of a job keeps these states as well, but for the mark of a failure. -/
theorem Job.keepsStored_of_mem_react {job : Job} {type : EventType} {owner : Option Definition}
    {kept : StreamState} (other : StreamState.reloadRequested ≠ kept) :
    ∀ command ∈ job.react type owner, command.KeepsStored kept ∨
      ∃ d, type = .deleted ∧ owner = some d ∧ job.isFailed = true ∧ command = .markCrashLoop d := by
  cases type with
  | added =>
    cases owner with
    | none => exact List.forall_mem_nil _
    | some d =>
      have drop : (Command.dropReloadRequest d).KeepsStored kept := ⟨.reloadRequested, other, rfl⟩
      simp only [react, onAdded]
      split
      · exact List.forall_mem_nil _
      · split
        · split
          · exact List.forall_mem_cons.2 ⟨.inl drop, List.forall_mem_singleton.2 (.inl trivial)⟩
          · exact List.forall_mem_singleton.2 (.inl trivial)
        · exact List.forall_mem_singleton.2 (.inl trivial)
  | modified =>
    simp only [react, onModified]
    split
    · exact List.forall_mem_nil _
    · split
      · exact List.forall_mem_singleton.2 (.inl trivial)
      · split
        · exact List.forall_mem_singleton.2 (.inl trivial)
        · exact List.forall_mem_nil _
  | deleted =>
    cases owner with
    | none => exact List.forall_mem_nil _
    | some d =>
      rw [react, onDeleted]
      split
      · rename_i failed
        exact List.forall_mem_cons.2 ⟨.inl trivial,
          List.forall_mem_singleton.2 (.inr ⟨d, rfl, rfl, failed, rfl⟩)⟩
      · split
        · exact List.forall_mem_singleton.2 (.inl trivial)
        · split <;> exact List.forall_mem_singleton.2 (.inl trivial)

/-- Carrying out what was decided on leaves a stored definition suspended. Only when its job was deleted
after it had failed may the mark of a crash loop take the place of the suspension. -/
theorem suspension_is_kept (classes : String → Option StreamClass) (now : String) (k : Cluster)
    (key : ResourceKey) (occasion : Occasion) (command : Command)
    (suspended : k.stateAt? key = some .suspended) (decided : command ∈ occasion.commands) :
    let after := ((Handler.mk Cluster.api classes now).handle command k).2
    after.stateAt? key = some .suspended ∨
      after.stateAt? key = some .crashLoop ∧ ∃ job d, occasion = .job .deleted job (some d) ∧
        job.isFailed = true ∧ command = .markCrashLoop d ∧ d.reference.key = key := by
  have drops : StreamState.reloadRequested ≠ .suspended := by decide
  cases occasion with
  | definition type d found =>
    have spares := Definition.keepsStored_of_mem_react drops command decided
    exact .inl (spares.stateAt? rfl suspended)
  | job type job owner =>
    rcases Job.keepsStored_of_mem_react drops command decided with
      spares | ⟨d, rfl, rfl, failed, rfl⟩
    · exact .inl (spares.stateAt? rfl suspended)
    · rcases Handler.markCrashLoop_stateAt? (h := ⟨Cluster.api, classes, now⟩) rfl d k key with
        same | ⟨own, marked⟩
      · exact .inl (same.trans suspended)
      · exact .inr ⟨marked, job, d, rfl, failed, rfl, own⟩

section Orders

/-- The orders were suspended after a reload of them had been requested. -/
def pausedCluster : Cluster := Orders.cluster (Orders.definition "4" (some .suspended)) []

/-- The request to reload is taken back for a definition that is suspended by now, and stays so. -/
theorem newer_suspension_is_kept :
    let outdated := Orders.definition "3" (some .reloadRequested)
    pausedCluster.stateAt? Orders.definitionKey = some .suspended ∧
    .dropReloadRequest outdated ∈ (Occasion.definition .modified outdated none).commands ∧
    (onFirstDay.handle (.dropReloadRequest outdated) pausedCluster).2.stateAt? Orders.definitionKey
      = some .suspended := by
  intro outdated
  have suspended : pausedCluster.stateAt? Orders.definitionKey = some .suspended := by decide +kernel
  have decided : Command.dropReloadRequest outdated
      ∈ (Occasion.definition .modified outdated none).commands := by decide +kernel
  refine ⟨suspended, decided, ?_⟩
  rcases suspension_is_kept (fun _ => none) "2024-01-01T00:00:00Z" _ _ _ _ suspended decided with
    kept | ⟨-, _, _, job, -⟩
  · exact kept
  · cases job

/-- The job of the suspended orders failed and was deleted: their suspension is lost. -/
theorem crash_loop_replaces_suspension : ¬ ∀ (classes : String → Option StreamClass) (now : String)
    (k : Cluster) (key : ResourceKey) (occasion : Occasion) (command : Command),
    k.stateAt? key = some .suspended → command ∈ occasion.commands →
    ((Handler.mk Cluster.api classes now).handle command k).2.stateAt? key = some .suspended := by
  intro kept
  let orders := Orders.definition "4" (some .suspended)
  let failed := Orders.job "3" none [("Failed", "True")]
  have kept := kept (fun _ => none) "2024-01-01T00:00:00Z" pausedCluster Orders.definitionKey
    (.job .deleted failed (some orders)) (.markCrashLoop orders) (by decide +kernel) (by decide +kernel)
  exact absurd kept (by decide +kernel)

end Orders

end StreamOperator
