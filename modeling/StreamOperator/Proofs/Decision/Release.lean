import StreamOperator.Proofs.Decision.StartStop
import StreamOperator.Proofs.Decision.Suspension
import StreamOperator.Proofs.Handler.Outcomes

/-!
# Starts of crash-looped streams

Which events start the job of a stream is settled by the state of its definition
(`Definition.start_mem_react_iff`, `Job.start_mem_react_iff`). A definition in a crash loop is not
started, except that it is listed anew while it has no job, and no command takes that state off again:
the stream starts once somebody else does (`crash_looped_start_iff`).
-/

set_option autoImplicit false

namespace StreamOperator

/-! ## Which events start a job -/

namespace Definition

variable {d started : Definition} {type : EventType} {found : Option Job} {backfilling : Bool}

theorem start_mem_onAdded_iff : Command.startJob started backfilling ∈ d.onAdded none ↔
    started = d ∧ d.isSuspended = false ∧ backfilling = true := by
  simp only [onAdded]
  split
  · rename_i suspended
    simp [suspended, Command.enterPhase, Command.statusWithReason]
  · rename_i active
    simp [active]

theorem start_mem_onModified_iff : Command.startJob started backfilling ∈ d.onModified none ↔
    started = d ∧ d.isSuspended = false ∧ d.isCrashLoop = false ∧
      backfilling = d.isReloadRequested := by
  simp only [onModified]
  split
  · rename_i crashLooped
    simp [crashLooped, Command.crashLoopStatus, Command.statusWithReason]
  · rename_i uncrashed
    split
    · rename_i suspended
      simp [suspended, Command.enterPhase, Command.statusWithReason]
    · rename_i active
      split
      · rename_i requested
        simp [uncrashed, active, requested, Command.dropReloadRequest]
      · rename_i unrequested
        simp [uncrashed, active, unrequested]

/-- An event of a definition starts a job when none was found and the definition is not suspended. A
crash loop keeps a modification from it, not the event that the definition was added. -/
theorem start_mem_react_iff : Command.startJob started backfilling ∈ d.react type found ↔
    found = none ∧ started = d ∧ d.isSuspended = false ∧
      (type = .added ∧ backfilling = true ∨
        type = .modified ∧ d.isCrashLoop = false ∧ backfilling = d.isReloadRequested) := by
  cases found with
  | some job =>
    refine ⟨fun member => ?_, fun ⟨gone, _⟩ => nomatch gone⟩
    exact nomatch (start_of_mem_react member).1
  | none =>
    cases type with
    | added => simp [react, start_mem_onAdded_iff]
    | modified => simp [react, start_mem_onModified_iff]
    | deleted => simp [react]

end Definition

/-- An event of a job starts one when the job is gone without a failure, and the definition that owned
it is neither suspended nor in a crash loop. -/
theorem Job.start_mem_react_iff {job : Job} {type : EventType} {owner : Option Definition}
    {started : Definition} {backfilling : Bool} :
    Command.startJob started backfilling ∈ job.react type owner ↔
      type = .deleted ∧ owner = some started ∧ job.isFailed = false ∧ started.isSuspended = false ∧
        started.isCrashLoop = false ∧
        backfilling = (job.isReloadRequested || job.isSchemaMismatch) := by
  constructor
  · intro member
    obtain ⟨rfl, rfl, -⟩ := start_of_mem_react member
    simp only [react, onDeleted] at member
    split at member
    · simp [Command.crashLoopStatus, Command.statusWithReason, Command.markCrashLoop] at member
    · split at member
      · simp [Command.enterPhase, Command.statusWithReason] at member
      · split at member
        · simp [Command.crashLoopStatus, Command.statusWithReason] at member
        · simp_all
  · rintro ⟨rfl, rfl, unfailed, active, uncrashed, rfl⟩
    simp [react, onDeleted, unfailed, active, uncrashed]

/-- The definition that is decided on, if there is one. -/
def Occasion.subject? : Occasion → Option Definition
  | .definition _ d _ => some d
  | .job _ _ owner => owner

/-! ## Crash loops -/

namespace Definition

variable {d : Definition}

theorem isSuspended_of_isCrashLoop (crashLooped : d.isCrashLoop = true) : d.isSuspended = false := by
  have state : d.view.state? = some .crashLoop := beq_iff_eq.1 crashLooped
  simp [isSuspended, StreamView.isSuspended, state]

/-- The definition after its state was taken off. -/
def released (d : Definition) : Definition :=
  { d with resource := { d.resource with metadata := d.resource.metadata.annotate Key.state none } }

theorem state?_released (d : Definition) : d.released.view.state? = none := by
  show (d.resource.metadata.annotate Key.state none).state? = none
  rw [Metadata.state?, Metadata.annotation?_annotate_self, Option.bind_none]

/-- A definition without a job starts once its state was taken off. -/
theorem start_mem_of_released (d : Definition) :
    .startJob d.released false ∈ d.released.react .modified none := by
  obtain ⟨active, unrequested, uncrashed⟩ := flags_of_stateless d.state?_released
  exact start_mem_react_iff.2 ⟨rfl, rfl, active, .inr ⟨rfl, uncrashed, unrequested.symm⟩⟩

/-- A definition in a crash loop is started when it is listed anew without a job, and by nothing else. -/
theorem start_of_isCrashLoop (crashLooped : d.isCrashLoop = true) {occasion : Occasion}
    (about : occasion.subject? = some d) {started : Definition} {backfilling : Bool} :
    .startJob started backfilling ∈ occasion.commands ↔
      occasion = .definition .added d none ∧ started = d ∧ backfilling = true := by
  cases occasion with
  | definition type d' found =>
    obtain rfl : d' = d := Option.some.inj about
    rw [Occasion.commands, start_mem_react_iff]
    simp only [isSuspended_of_isCrashLoop crashLooped, crashLooped, Occasion.definition.injEq]
    grind
  | job type job owner =>
    obtain rfl : owner = some d := about
    rw [Occasion.commands, Job.start_mem_react_iff]
    simp only [Option.some.injEq, reduceCtorEq, false_and, iff_false]
    rintro ⟨-, rfl, -, -, uncrashed, -⟩
    exact absurd (crashLooped.symm.trans uncrashed) (by decide)

end Definition

/-- Carrying out what was decided on leaves a stored definition in its crash loop. -/
theorem Occasion.keeps_crashLoop (occasion : Occasion) {command : Command}
    (decided : command ∈ occasion.commands) {h : Handler Cluster} (inMemory : h.api = Cluster.api)
    {k : Cluster} {key : ResourceKey} (crashLooped : k.stateAt? key = some .crashLoop) :
    (h.handle command k).2.stateAt? key = some .crashLoop := by
  have drops : StreamState.reloadRequested ≠ .crashLoop := by decide
  cases occasion with
  | definition type d found =>
    exact (Definition.keepsStored_of_mem_react drops command decided).stateAt? inMemory crashLooped
  | job type job owner =>
    rcases Job.keepsStored_of_mem_react drops command decided with spares | ⟨d, -, -, -, rfl⟩
    · exact spares.stateAt? inMemory crashLooped
    · rcases Handler.markCrashLoop_stateAt? inMemory d k key with same | ⟨-, marked⟩
      · exact same.trans crashLooped
      · exact marked

/-- While a definition is in a crash loop its stream is started on one occasion only: the definition
was added, as it is when all definitions are listed anew, and no job was found. No command takes the
state off the stored definition; once it is off, a modification starts the stream. -/
theorem crash_looped_start_iff (d : Definition) (crashLooped : d.isCrashLoop = true) :
    (∀ (occasion : Occasion) (started : Definition) (backfilling : Bool),
      occasion.subject? = some d →
      (.startJob started backfilling ∈ occasion.commands ↔
        occasion = .definition .added d none ∧ started = d ∧ backfilling = true)) ∧
    (∀ (classes : String → Option StreamClass) (now : String) (k : Cluster) (occasion : Occasion)
      (command : Command), k.stateAt? d.reference.key = some .crashLoop →
      command ∈ occasion.commands →
      ((Handler.mk Cluster.api classes now).handle command k).2.stateAt? d.reference.key
        = some .crashLoop) ∧
    .startJob d.released false ∈ d.released.react .modified none := by
  refine ⟨fun occasion started backfilling about => ?_,
    fun classes now k occasion command stated decided => ?_, d.start_mem_of_released⟩
  · exact Definition.start_of_isCrashLoop crashLooped about
  · exact occasion.keeps_crashLoop decided rfl stated

section Orders

/-- The job of the orders failed before. -/
def crashedOrders : Definition := Orders.definition "4" (some .crashLoop)

/-- Their crash loop lasts while the orders are listed anew, and ends when its mark is taken off. -/
theorem crashed_orders_start_once_released :
    crashedOrders.isCrashLoop = true ∧
    (∀ job : Job, Command.startJob crashedOrders true ∉ job.react .deleted (some crashedOrders)) ∧
    ((onFirstDay.handle (.startJob crashedOrders true)
      (Orders.cluster crashedOrders [])).2.stateAt? Orders.definitionKey = some .crashLoop) ∧
    .startJob crashedOrders.released false ∈ crashedOrders.released.react .modified none := by
  have crashLooped : crashedOrders.isCrashLoop = true := by decide
  have stated : (Orders.cluster crashedOrders []).stateAt? Orders.definitionKey = some .crashLoop := by
    decide +kernel
  obtain ⟨starts, keeps, released⟩ := crash_looped_start_iff crashedOrders crashLooped
  refine ⟨crashLooped, fun job member => ?_, ?_, released⟩
  · exact nomatch ((starts (.job .deleted job (some crashedOrders)) _ _ rfl).1 member).1
  · exact keeps (fun _ => none) "2024-01-01T00:00:00Z" _ (.definition .added crashedOrders none) _
      stated ((starts _ _ _ rfl).2 ⟨rfl, rfl, rfl⟩)

/-- The crash-looped orders are listed anew without a job, and a job is started. -/
theorem crash_looped_orders_are_started : ¬ ∀ (d : Definition), d.isCrashLoop = true →
    ∀ (type : EventType) (found : Option Job) (backfilling : Bool),
      Command.startJob d backfilling ∉ d.react type found := by
  intro held
  exact held crashedOrders (by decide) .added none true
    (Definition.start_mem_react_iff.2 ⟨rfl, rfl, by decide, .inl ⟨rfl, rfl⟩⟩)

end Orders

end StreamOperator
