import StreamOperator.Decision.Job
import StreamOperator.Decision.Stream
import StreamOperator.Proofs.Handler.Effects

/-!
# Decisions to start and to stop a job

What can be decided on an event of a definition (`Definition.Reaction`) and of a job
(`Job.Reaction`), as far as jobs are started and stopped. From which event a start or a stop follows
is read off from that.
-/

set_option autoImplicit false

namespace StreamOperator

/-- The command neither starts nor stops a job. -/
def Command.SparesJobs : Command → Prop
  | startJob _ _ | stopJob _ _ => False
  | _ => True

namespace Definition

variable {d d' : Definition} {type : EventType} {found : Option Job} {backfilling : Bool}
  {space name : String} {command : Command}

/-- What a command can be that is decided on an event of a definition. -/
inductive Reaction (d : Definition) (type : EventType) (found : Option Job) : Command → Prop where
  | spared {command : Command} (spares : command.SparesJobs) : Reaction d type found command
  /-- The job that was found is stopped. -/
  | stopped {job : Job} (stored : found = some job) :
      Reaction d type found (.stopJob job.space job.name)
  /-- No job was found: a backfill starts unless the event is a change without a request to reload. -/
  | started {backfilling : Bool} (gone : found = none)
      (wanted : backfilling = true ↔ type = .added ∨ d.isReloadRequested = true) :
      Reaction d type found (.startJob d backfilling)

theorem onAdded_reactions (d : Definition) (found : Option Job) :
    ∀ command ∈ d.onAdded found, d.Reaction .added found command := by
  cases found with
  | none =>
    simp only [onAdded]
    split
    · exact List.forall_mem_singleton.2 (.spared trivial)
    · exact List.forall_mem_singleton.2 (.started rfl (by simp))
  | some job =>
    simp only [onAdded]
    split
    · exact List.forall_mem_singleton.2 (.spared trivial)
    · split
      · exact List.forall_mem_singleton.2 (.stopped rfl)
      · exact List.forall_mem_singleton.2 (.spared trivial)

theorem onModified_reactions (d : Definition) (found : Option Job) :
    ∀ command ∈ d.onModified found, d.Reaction .modified found command := by
  cases found with
  | none =>
    simp only [onModified]
    split
    · exact List.forall_mem_singleton.2 (.spared trivial)
    · split
      · exact List.forall_mem_singleton.2 (.spared trivial)
      · split
        · rename_i requested
          have start : d.Reaction .modified none (.startJob d true) :=
            .started rfl (by simp [requested])
          exact List.forall_mem_cons.2 ⟨.spared trivial, List.forall_mem_singleton.2 start⟩
        · rename_i requested
          exact List.forall_mem_singleton.2 (.started rfl (by simp [requested]))
  | some job =>
    simp only [onModified]
    split
    · exact List.forall_mem_singleton.2 (.stopped rfl)
    · split
      · exact List.forall_mem_cons.2 ⟨.spared trivial, List.forall_mem_singleton.2 (.spared trivial)⟩
      · split
        · exact List.forall_mem_singleton.2 (.spared trivial)
        · exact List.forall_mem_nil _

theorem reaction_of_mem_react (member : command ∈ d.react type found) :
    d.Reaction type found command := by
  cases type with
  | added => exact onAdded_reactions d found command member
  | modified => exact onModified_reactions d found command member
  | deleted => cases member

/-- A definition's event stops the job that was found. -/
theorem stop_of_mem_react (member : Command.stopJob space name ∈ d.react type found) :
    ∃ job, found = some job ∧ job.key = ⟨space, name⟩ := by
  cases reaction_of_mem_react member with
  | spared spares => cases spares
  | stopped stored => exact ⟨_, stored, rfl⟩

/-- A definition's event starts a job only when none was found, and a backfill unless the event is a
change without a request to reload. -/
theorem start_of_mem_react (member : Command.startJob d' backfilling ∈ d.react type found) :
    found = none ∧ d' = d ∧ (backfilling = true ↔ type = .added ∨ d.isReloadRequested = true) := by
  cases reaction_of_mem_react member with
  | spared spares => cases spares
  | started gone wanted => exact ⟨gone, rfl, wanted⟩

end Definition

namespace Job

variable {job : Job} {type : EventType} {owner : Option Definition} {d : Definition}
  {backfilling : Bool} {space name : String} {command : Command}

/-- What a command can be that is decided on an event of a job. -/
inductive Reaction (job : Job) (type : EventType) (owner : Option Definition) : Command → Prop where
  | spared {command : Command} (spares : command.SparesJobs) : Reaction job type owner command
  /-- The job itself is stopped. -/
  | stopped : Reaction job type owner (.stopJob job.space job.name)
  /-- The job is gone: a backfill starts if the job was marked for one. -/
  | started {d : Definition} {backfilling : Bool} (gone : type = .deleted) (owned : owner = some d)
      (wanted : backfilling = true ↔ job.isReloadRequested = true ∨ job.isSchemaMismatch = true) :
      Reaction job type owner (.startJob d backfilling)

theorem onAdded_reactions (job : Job) (owner : Option Definition) :
    ∀ command ∈ job.onAdded owner, job.Reaction .added owner command := by
  cases owner with
  | none => exact List.forall_mem_nil _
  | some d =>
    simp only [onAdded]
    split
    · exact List.forall_mem_nil _
    · split
      · split
        · exact List.forall_mem_cons.2 ⟨.spared trivial, List.forall_mem_singleton.2 (.spared trivial)⟩
        · exact List.forall_mem_singleton.2 (.spared trivial)
      · exact List.forall_mem_singleton.2 (.spared trivial)

theorem onModified_reactions (job : Job) (owner : Option Definition) :
    ∀ command ∈ job.onModified, job.Reaction .modified owner command := by
  unfold onModified
  split
  · exact List.forall_mem_nil _
  · split
    · exact List.forall_mem_singleton.2 .stopped
    · split
      · exact List.forall_mem_singleton.2 .stopped
      · exact List.forall_mem_nil _

theorem onDeleted_reactions (job : Job) (owner : Option Definition) :
    ∀ command ∈ job.onDeleted owner, job.Reaction .deleted owner command := by
  cases owner with
  | none => exact List.forall_mem_nil _
  | some d =>
    simp only [onDeleted]
    split
    · exact List.forall_mem_cons.2 ⟨.spared trivial, List.forall_mem_singleton.2 (.spared trivial)⟩
    · split
      · exact List.forall_mem_singleton.2 (.spared trivial)
      · split
        · exact List.forall_mem_singleton.2 (.spared trivial)
        · exact List.forall_mem_singleton.2 (.started rfl rfl (by rw [Bool.or_eq_true]))

theorem reaction_of_mem_react (member : command ∈ job.react type owner) :
    job.Reaction type owner command := by
  cases type with
  | added => exact onAdded_reactions job owner command member
  | modified => exact onModified_reactions job owner command member
  | deleted => exact onDeleted_reactions job owner command member

/-- A job's event stops that job. -/
theorem stop_of_mem_react (member : Command.stopJob space name ∈ job.react type owner) :
    job.key = ⟨space, name⟩ := by
  cases reaction_of_mem_react member with
  | spared spares => cases spares
  | stopped => rfl

/-- A job's event starts a job only when it reports that the job is gone, and a backfill when the job
was marked for one. -/
theorem start_of_mem_react (member : Command.startJob d backfilling ∈ job.react type owner) :
    type = .deleted ∧ owner = some d ∧
      (backfilling = true ↔ job.isReloadRequested = true ∨ job.isSchemaMismatch = true) := by
  cases reaction_of_mem_react member with
  | spared spares => cases spares
  | started gone owned wanted => exact ⟨gone, owned, wanted⟩

end Job

end StreamOperator
