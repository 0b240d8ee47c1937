import StreamOperator.Proofs.Decision.Release
import StreamOperator.Proofs.Reconcile.Resubscription

/-!
# Decisions that stay with their stream

What is decided on an event of a definition is one of a few plans (`Definition.Plan`). Read off from
them: a job is started only where none was found, and by the last command; whatever else is asked for
concerns the job that was found or the definition itself (`Definition.Restrained`). An event of a job
starts the next one or stops this one, each on an occasion that is known exactly (`Job.Restrained`).
-/

set_option autoImplicit false

namespace StreamOperator

/-- The definition that a command annotates or tells a status. -/
def Command.definitionTarget? : Command → Option StreamRef
  | annotate (.definition stream) _ _ | unannotate (.definition stream) _ _
  | updateStatus stream _ _ => some stream
  | _ => none

/-! ## Definitions -/

namespace Definition

/-- What can be decided on an event of a definition. -/
inductive Plan (d : Definition) (found : Option Job) : List Command → Prop where
  | nothing : Plan d found []
  | told (phase : StreamPhase) (reason message : String) :
      Plan d found [.statusWithReason d.reference phase reason message]
  | stopped {job : Job} (observed : found = some job) : Plan d found [.stop job]
  | marked {job : Job} (state : StreamState) (observed : found = some job) :
      Plan d found [.markJob job state]
  /-- A request to reload is passed from the definition to its job. -/
  | passedOn {job : Job} (state : StreamState) (observed : found = some job) :
      Plan d found [.dropReloadRequest d, .markJob job state]
  | started (backfilling : Bool) (free : found = none) (active : d.isSuspended = false) :
      Plan d found [.startJob d backfilling]
  /-- A request to reload is answered by a job. -/
  | reloaded (free : found = none) (active : d.isSuspended = false) :
      Plan d found [.dropReloadRequest d, .startJob d true]

variable {d : Definition} {found : Option Job} {commands : List Command}

theorem plan_onAdded (d : Definition) (found : Option Job) : d.Plan found (d.onAdded found) := by
  cases found with
  | none =>
    simp only [onAdded]
    split
    · exact .told _ _ _
    · rename_i active
      exact .started true rfl (Bool.eq_false_iff.2 active)
  | some job =>
    simp only [onAdded]
    split
    · exact .told _ _ _
    · split
      · exact .stopped rfl
      · exact .told _ _ _

theorem plan_onModified (d : Definition) (found : Option Job) : d.Plan found (d.onModified found) := by
  cases found with
  | none =>
    simp only [onModified]
    split
    · exact .told _ _ _
    · split
      · exact .told _ _ _
      · rename_i active
        split
        · exact .reloaded rfl (Bool.eq_false_iff.2 active)
        · exact .started false rfl (Bool.eq_false_iff.2 active)
  | some job =>
    simp only [onModified]
    split
    · exact .stopped rfl
    · split
      · exact .passedOn .reloadRequested rfl
      · split
        · exact .marked .restartRequested rfl
        · exact .nothing

theorem plan_react (type : EventType) (d : Definition) (found : Option Job) :
    d.Plan found (d.react type found) := by
  cases type with
  | added => exact plan_onAdded d found
  | modified => exact plan_onModified d found
  | deleted => exact .nothing

/-- Commands that stay with a definition and the job that was found for it, and that start no job
beside one. -/
structure Restrained (d : Definition) (found : Option Job) (commands : List Command) : Prop where
  starts : ∀ started backfilling, .startJob started backfilling ∈ commands →
    started = d ∧ found = none ∧ d.isSuspended = false
  single : commands.countP Command.isStartJob ≤ 1
  last : ∀ command ∈ commands.dropLast, command.isStartJob = false
  /-- Only the job that was found is stopped or annotated. -/
  targets : ∀ command ∈ commands, ∀ key, command.jobTarget? = some key →
    ∃ job, found = some job ∧ key = ⟨job.space, job.name⟩
  /-- All that is left is for the definition itself. -/
  own : ∀ command ∈ commands, command.isStartJob = false → command.jobTarget? = none →
    command.definitionTarget? = some d.reference
  apart : ∀ start ∈ commands, start.isStartJob = true → ∀ stop ∈ commands, stop.isStopJob = false

/-- A single command is restrained if it is. -/
theorem restrained_singleton {command : Command}
    (starts : ∀ started backfilling, command = .startJob started backfilling →
      started = d ∧ found = none ∧ d.isSuspended = false)
    (targets : ∀ key, command.jobTarget? = some key →
      ∃ job, found = some job ∧ key = ⟨job.space, job.name⟩)
    (own : command.isStartJob = false → command.jobTarget? = none →
      command.definitionTarget? = some d.reference) : d.Restrained found [command] where
  starts started backfilling member := starts started backfilling (List.mem_singleton.1 member).symm
  single := List.countP_le_length
  last := List.forall_mem_nil _
  targets := List.forall_mem_singleton.2 targets
  own := List.forall_mem_singleton.2 own
  apart := by
    refine List.forall_mem_singleton.2 fun start => List.forall_mem_singleton.2 ?_
    cases command with
    | startJob started backfilling => rfl
    | _ => cases start

/-- To take back a request to reload first leaves commands as restrained as they are. -/
theorem Restrained.afterDrop (restrained : d.Restrained found commands) (nonempty : commands ≠ []) :
    d.Restrained found (.dropReloadRequest d :: commands) where
  starts started backfilling member := by
    rcases List.mem_cons.1 member with drop | member
    · cases drop
    · exact restrained.starts started backfilling member
  single := restrained.single
  last := by
    rw [List.dropLast_cons_of_ne_nil nonempty]
    exact List.forall_mem_cons.2 ⟨rfl, restrained.last⟩
  targets := List.forall_mem_cons.2 ⟨fun _ target => (nomatch target), restrained.targets⟩
  own := List.forall_mem_cons.2 ⟨fun _ _ => rfl, restrained.own⟩
  apart := by
    refine List.forall_mem_cons.2 ⟨fun drop => (nomatch drop), fun start member starts => ?_⟩
    exact List.forall_mem_cons.2 ⟨rfl, restrained.apart start member starts⟩

theorem restrained_markJob {job : Job} (state : StreamState) (observed : found = some job) :
    d.Restrained found [.markJob job state] := by
  refine restrained_singleton (fun _ _ start => nomatch start) (fun key target => ?_)
    fun _ untargeted => nomatch untargeted
  exact ⟨job, observed, (Option.some.inj target).symm⟩

theorem restrained_startJob (backfilling : Bool) (free : found = none) (active : d.isSuspended = false) :
    d.Restrained found [.startJob d backfilling] := by
  refine restrained_singleton (fun started flag start => ?_) (fun _ target => nomatch target)
    fun other => nomatch other
  cases start
  exact ⟨rfl, free, active⟩

theorem Plan.restrained (plan : d.Plan found commands) : d.Restrained found commands := by
  cases plan with
  | nothing =>
    exact ⟨fun _ _ member => (nomatch member), Nat.zero_le _, List.forall_mem_nil _,
      List.forall_mem_nil _, List.forall_mem_nil _, List.forall_mem_nil _⟩
  | told phase reason message =>
    exact restrained_singleton (fun _ _ start => nomatch start) (fun _ target => nomatch target)
      fun _ _ => rfl
  | @stopped job observed =>
    refine restrained_singleton (fun _ _ start => nomatch start) (fun key target => ?_)
      fun _ untargeted => nomatch untargeted
    exact ⟨job, observed, (Option.some.inj target).symm⟩
  | marked state observed => exact restrained_markJob state observed
  | passedOn state observed => exact (restrained_markJob state observed).afterDrop (List.cons_ne_nil _ _)
  | started backfilling free active => exact restrained_startJob backfilling free active
  | reloaded free active => exact (restrained_startJob true free active).afterDrop (List.cons_ne_nil _ _)

end Definition

/-! ## Jobs -/

namespace Job

variable {job : Job} {type : EventType} {owner : Option Definition} {space name : String}

/-- What is decided on a job that is gone stops and annotates none. -/
theorem untargeted_of_mem_onDeleted : ∀ command ∈ job.onDeleted owner, command.jobTarget? = none := by
  cases owner with
  | none => exact List.forall_mem_nil _
  | some d =>
    simp only [onDeleted]
    split
    · exact List.forall_mem_cons.2 ⟨rfl, List.forall_mem_singleton.2 rfl⟩
    · split
      · exact List.forall_mem_singleton.2 rfl
      · split <;> exact List.forall_mem_singleton.2 rfl

/-- The job is to go by what it says of itself: it was asked to, or it has finished. -/
def isDone (job : Job) : Bool :=
  job.isReloadRequested || job.isRestartRequested || job.isFailed || job.isCompleted

theorem stop_mem_onModified_iff : Command.stopJob space name ∈ job.onModified ↔
    job.isTerminating = false ∧ job.isDone = true ∧ space = job.space ∧ name = job.name := by
  have stopped : Command.stopJob space name ∈ [Command.stop job] ↔
      space = job.space ∧ name = job.name := by
    rw [List.mem_singleton, Command.stop, Command.stopJob.injEq]
  unfold onModified
  split
  · rename_i terminating
    simp [terminating]
  · rename_i live
    split
    · rename_i asked
      simp [live, isDone, asked, stopped]
    · rename_i unasked
      split
      · rename_i finished
        simp [live, isDone, Bool.or_assoc, finished, stopped]
      · rename_i unfinished
        simp [isDone, Bool.eq_false_iff.2 unasked, Bool.eq_false_iff.2 unfinished]

/-- A job is stopped by an event of its own when it has changed and is to go, unless it is on its way
out already. -/
theorem stop_mem_react_iff : Command.stopJob space name ∈ job.react type owner ↔
    type = .modified ∧ job.isTerminating = false ∧ job.isDone = true ∧
      space = job.space ∧ name = job.name := by
  cases type with
  | added =>
    constructor
    · intro member
      cases (untargeted_of_mem_onAdded _ member).1
    · rintro ⟨⟨⟩, -⟩
  | modified => simp [react, stop_mem_onModified_iff]
  | deleted =>
    constructor
    · intro member
      cases untargeted_of_mem_onDeleted _ member
    · rintro ⟨⟨⟩, -⟩

/-- The commands for an event of a job start the next job only when this one is gone, and stop this one
only while it is there. -/
structure Restrained (job : Job) (type : EventType) (owner : Option Definition) : Prop where
  starts : ∀ started backfilling, .startJob started backfilling ∈ job.react type owner ↔
    type = .deleted ∧ owner = some started ∧ job.isFailed = false ∧ started.isSuspended = false ∧
      started.isCrashLoop = false ∧ backfilling = (job.isReloadRequested || job.isSchemaMismatch)
  stops : ∀ space name, .stopJob space name ∈ job.react type owner ↔
    type = .modified ∧ job.isTerminating = false ∧ job.isDone = true ∧
      space = job.space ∧ name = job.name
  apart : ∀ start ∈ job.react type owner, start.isStartJob = true →
    ∀ stop ∈ job.react type owner, stop.isStopJob = false

theorem restrained (job : Job) (type : EventType) (owner : Option Definition) :
    job.Restrained type owner where
  starts _ _ := start_mem_react_iff
  stops _ _ := stop_mem_react_iff
  apart := by
    intro start member starts stop member'
    cases start with
    | startJob started backfilling =>
      cases stop with
      | stopJob space name =>
        have deleted := (start_mem_react_iff.1 member).1
        have modified := (stop_mem_react_iff.1 member').1
        exact nomatch deleted.symm.trans modified
      | _ => rfl
    | _ => cases starts

end Job

/-- What is decided on an event of a definition or of a job stays with the stream: no job is started
beside one that was found, and none but that one is stopped or annotated. -/
theorem decisions_are_restrained :
    (∀ (type : EventType) (d : Definition) (found : Option Job),
      d.Restrained found (d.react type found)) ∧
    ∀ (type : EventType) (job : Job) (owner : Option Definition), job.Restrained type owner :=
  ⟨fun type d found => (d.plan_react type found).restrained,
    fun type job owner => job.restrained type owner⟩

section Orders

/-- A reload of the orders is requested: without a job one is started last, and the job that is gone with
such a request is followed by a backfill. -/
theorem reloading_orders_are_restrained :
    let orders := Orders.definition "4" (some .reloadRequested)
    orders.react .modified none = [.dropReloadRequest orders, .startJob orders true] ∧
    (orders.react .modified none).countP Command.isStartJob ≤ 1 ∧
    .startJob orders true ∈ (Orders.job "3" (some .reloadRequested) []).react .deleted (some orders) := by
  intro orders
  obtain ⟨definitions, jobs⟩ := decisions_are_restrained
  refine ⟨by decide +kernel, (definitions .modified orders none).single, ?_⟩
  exact ((jobs .deleted _ _).starts orders true).2
    ⟨rfl, rfl, by decide +kernel, by decide +kernel, by decide +kernel, by decide +kernel⟩

end Orders

end StreamOperator
