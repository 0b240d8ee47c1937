import StreamOperator.Proofs.Decision.StartStop
import StreamOperator.Proofs.Reconcile.Steps

/-!
# A crash loop while it is being recorded

When a failed job is gone, the job reconciler writes the status of its definition and then marks the
definition by an annotation. Each of the two is reported to the stream reconciler, which starts a job
for a definition that has none. The main statement is `crash_loop_holds_iff`: no start follows,
whatever the order of the steps, exactly when the definition is marked already or the status changes
nothing, or else when the stream reconciler cannot look for the job at all. `crash_loop_is_escaped`
shows a start.
-/

set_option autoImplicit false

namespace StreamOperator

/-- An edit is reported as a modification of its resource, and nothing else is. -/
theorem Cluster.Edits.of_mem_changes {key other : ResourceKey} {P : Resource → Resource → Prop}
    {k k' : Cluster} {last : Resource → Resource} {event : Event Resource} (edits : Edits key P k k')
    (reported : (other, event) ∈ Table.changes last k.resources k'.resources) :
    ∃ r r', Table.get? key k.resources = some r ∧ P r r' ∧ Table.get? key k'.resources = some r' ∧
      event = ⟨.modified, r'⟩ := by
  have changed := Table.mem_changes.1 reported
  by_cases own : other = key
  · subst own
    rcases edits.resources with same | ⟨r, r', found, rewritten, written⟩
    · rw [same, Event.ofChange_self] at changed
      cases changed
    · rw [written, Table.get?_set_self, found] at changed
      simp only [Event.ofChange] at changed
      split at changed
      · cases changed
      · obtain rfl := Option.some.inj changed
        exact ⟨r, r', found, rewritten, by rw [written, Table.get?_set_self], rfl⟩
  · rw [edits.elsewhere own, Event.ofChange_self] at changed
    cases changed

theorem Cluster.Edits.content {key : ResourceKey} {P : Resource → Resource → Prop}
    {k k' k'' : Cluster} (edits : Edits key P k k') (content : k'.SameContent k'') :
    Edits key P k k'' where
  jobs := content.jobs.trans edits.jobs
  failing := content.failing.trans edits.failing
  resources := by
    rw [content.resources]
    exact edits.resources

theorem Cluster.SameContent.edits {key : ResourceKey} {P : Resource → Resource → Prop}
    {k k' : Cluster} (content : k.SameContent k') : Edits key P k k' :=
  ⟨content.jobs, content.failing, .inl content.resources⟩

/-! ## What the two commands do to the definition -/

/-- The resource is the definition in a later version: it has the same name, and a mark is not lost. -/
structure Definition.Later (c : Coordinates) (r r' : Resource) : Prop where
  reference : (Definition.mk r' c).reference = (Definition.mk r c).reference
  crashLoop : (Definition.mk r c).isCrashLoop = true → (Definition.mk r' c).isCrashLoop = true

variable {d : Definition} {k k' : Cluster} {setting : Setting} {job : Job}

theorem crashLoopStatus_edits (setting : Setting) (k : Cluster) :
    Cluster.Edits d.reference.key (Definition.Later d.coordinates) k
      (setting.handler.handle (.crashLoopStatus d) k).2 := by
  refine (Handler.updateStatus_edits rfl _ _ k).mono ?_
  rintro r r' ⟨status, version, rfl⟩
  exact ⟨rfl, fun marked => marked⟩

theorem markCrashLoop_edits (setting : Setting) (k : Cluster) :
    Cluster.Edits d.reference.key (fun r r' => Definition.Later d.coordinates r r' ∧
        (Definition.mk r' d.coordinates).isCrashLoop = true)
      k (setting.handler.handle (.markCrashLoop d) k).2 := by
  refine (Handler.annotate_edits rfl _ _ _ k).mono ?_
  rintro r r' ⟨version, rfl⟩
  have marked : (Definition.mk (Cluster.annotated r Key.state (some StreamState.crashLoop.text)
      version) d.coordinates).isCrashLoop = true := by
    simp [Definition.isCrashLoop, StreamView.isCrashLoop, StreamView.state?, Definition.view,
      Metadata.state?, Metadata.annotation?, Cluster.annotated, Cluster.versioned, Metadata.annotate]
  exact ⟨⟨rfl, fun _ => marked⟩, marked⟩

namespace World

/-- A reconciler that has nothing else to do than to record a crash loop edits the definition at
most. -/
theorem edits_of_advance {α : Type} {Decides : Event α → List Command → Prop}
    {stage stage' : RunStage α}
    (advance : Run.Advance setting.handler Decides k k' stage stage')
    (recording : ∀ command ∈ stage.commands,
      command = .crashLoopStatus d ∨ command = .markCrashLoop d) :
    Cluster.Edits d.reference.key (Definition.Later d.coordinates) k k' := by
  cases advance with
  | dropped content | decided content | finished content => exact content.edits
  | @handled _ command _ _ content =>
    rcases recording command List.mem_cons_self with rfl | rfl
    · exact (crashLoopStatus_edits setting k).content content
    · exact ((markCrashLoop_edits setting k).mono fun _ _ later => later.1).content content

variable {w v : World} {move : Move}

/-- What the stream reconciler hears of an edit. -/
theorem mem_definitionEvents_of_edits {key : ResourceKey} {P : Resource → Resource → Prop}
    {deletion : String} {event : Event Resource} (edits : Cluster.Edits key P w.cluster k')
    (member : event ∈ (w.become k' deletion).definitionEvents) : event ∈ w.definitionEvents ∨
      ∃ r r', Table.get? key w.cluster.resources = some r ∧ P r r' ∧
        Table.get? key k'.resources = some r' ∧ event = ⟨.modified, r'⟩ := by
  rcases mem_definitionEvents_become member with old | ⟨other, reported⟩
  · exact .inl old
  · exact .inr (edits.of_mem_changes reported)

/-- All that the reconcilers have left to do is to record a crash loop. -/
structure Recording (d : Definition) (k : Cluster) (w : World) : Prop where
  kind : w.kind = d.coordinates
  jobs : w.cluster.jobs = k.jobs
  failing : w.cluster.failing = k.failing
  noJobEvents : w.jobEvents = []
  undecided : ∀ ticket event, w.jobStage ≠ .received ticket event
  jobCommands : ∀ command ∈ w.jobStage.commands,
    command = .crashLoopStatus d ∨ command = .markCrashLoop d
  streamCommands : ∀ command ∈ w.streamStage.commands, command = .crashLoopStatus d

/-- The stream reconciler decides on nothing but the status. -/
def Harmless (d : Definition) (w : World) : Prop :=
  ∀ {ticket event commands}, w.streamStage = .received ticket event →
    w.StreamDecision event commands → ∀ command ∈ commands, command = .crashLoopStatus d

/-- What a move of a reconciler can be while a crash loop is recorded. -/
inductive Recorded (d : Definition) (w : World) : World → Prop where
  | taken {ticket : Nat} {event : Event Resource} {rest : List (Event Resource)}
      (idle : w.streamStage = .idle ticket) (queue : w.definitionEvents = event :: rest) :
      Recorded d w { w with streamStage := .received ticket event, definitionEvents := rest }
  | streams {stage : RunStage Resource} {dedup : Deduplicator} {k' : Cluster} {setting : Setting}
      (advance : Run.Advance setting.handler w.StreamDecision w.cluster k' w.streamStage stage)
      (edits : Cluster.Edits d.reference.key (Definition.Later d.coordinates) w.cluster k') :
      Recorded d w ({ w with
        streamStage := stage
        streamDedup := dedup
        streamBasis := w.nextBasis }.become k' setting.deletion)
  | jobs {stage : RunStage Job} {dedup : Deduplicator} {k' : Cluster} {setting : Setting}
      (advance : Run.Advance setting.handler JobDecision w.cluster k' w.jobStage stage)
      (edits : Cluster.Edits d.reference.key (Definition.Later d.coordinates) w.cluster k') :
      Recorded d w ({ w with jobStage := stage, jobDedup := dedup }.become k' setting.deletion)

theorem Recording.step_cases (recording : w.Recording d k) (own : move.isOwn = true)
    (moved : w.step move = some v) : w.Recorded d v := by
  cases move with
  | take actor =>
    cases actor with
    | streams =>
      simp only [World.step] at moved
      split at moved
      · obtain rfl := Option.some.inj moved
        exact .taken ‹_› ‹_›
      · cases moved
    | jobs =>
      simp only [World.step, recording.noJobEvents] at moved
      split at moved
      · rename_i nonempty
        cases nonempty
      · cases moved
  | work actor setting =>
    cases actor with
    | streams =>
      obtain ⟨stage, dedup, k', rfl, advance⟩ := step_work_streams moved
      exact .streams advance
        (edits_of_advance advance fun command left => .inl (recording.streamCommands command left))
    | jobs =>
      obtain ⟨stage, dedup, k', rfl, advance⟩ := step_work_jobs moved
      exact .jobs advance (edits_of_advance advance recording.jobCommands)
  | others | listDefinition | listJob => cases own

/-- While the stream reconciler decides on nothing but the status, nothing else is done. -/
theorem Recording.step (recording : w.Recording d k) (harmless : w.Harmless d)
    (own : move.isOwn = true) (moved : w.step move = some v) : v.Recording d k := by
  cases recording.step_cases own moved with
  | taken => exact { recording with streamCommands := fun _ left => by cases left }
  | streams advance edits =>
    refine { recording with
      jobs := edits.jobs.trans recording.jobs
      failing := edits.failing.trans recording.failing
      noJobEvents := (jobEvents_become edits.jobs).trans recording.noJobEvents
      streamCommands := ?_ }
    intro command left
    rcases advance.commands left with ⟨-, before⟩ | ⟨ticket, event, commands, current, decision, new⟩
    · exact recording.streamCommands command before
    · exact harmless current decision command new
  | jobs advance edits =>
    refine { recording with
      jobs := edits.jobs.trans recording.jobs
      failing := edits.failing.trans recording.failing
      noJobEvents := (jobEvents_become edits.jobs).trans recording.noJobEvents
      undecided := advance.ne_received
      jobCommands := ?_ }
    intro command left
    rcases advance.commands left with ⟨-, before⟩ | ⟨ticket, event, commands, current, -⟩
    · exact recording.jobCommands command before
    · exact absurd current (recording.undecided ticket event)

/-! ## The stream reconciler cannot look for the job -/

theorem Recording.harmless_of_failing (recording : w.Recording d k)
    (failing : k.failing.contains "get_job" = true) : w.Harmless d := by
  rintro ticket event commands - ⟨rfl, reason⟩ command member
  rcases reason with deleted | works
  · rw [deleted] at member
    cases member
  · rw [recording.failing, failing] at works
    cases works

theorem Recording.run {moves : List Move} (recording : w.Recording d k)
    (failing : k.failing.contains "get_job" = true) (own : ∀ move ∈ moves, move.isOwn = true)
    (ran : w.run moves = some v) : v.Recording d k :=
  run_preserves (Q := fun move => move.isOwn = true)
    (fun own recording moved => recording.step (recording.harmless_of_failing failing) own moved)
    own recording ran

/-! ## The definition is marked -/

/-- The resource is the definition, and it is marked. -/
structure Looping (d : Definition) (r : Resource) : Prop where
  reference : (Definition.mk r d.coordinates).reference = d.reference
  crashLoop : (Definition.mk r d.coordinates).isCrashLoop = true

theorem Looping.later {r r' : Resource} (looping : Looping d r)
    (later : Definition.Later d.coordinates r r') : Looping d r' :=
  ⟨later.reference.trans looping.reference, later.crashLoop looping.crashLoop⟩

/-- The definition is marked, and all that the stream reconciler hears says so. -/
structure Marked (d : Definition) (k : Cluster) (w : World) : Prop where
  recording : w.Recording d k
  stored : ∃ r, Table.get? d.reference.key w.cluster.resources = some r ∧ Looping d r
  queued : ∀ event ∈ w.definitionEvents, event.type = .modified ∧ Looping d event.resource
  received : ∀ {ticket event}, w.streamStage = .received ticket event →
    event.type = .modified ∧ Looping d event.resource

/-- A definition that is marked only has its status written. -/
theorem onModified_of_looping {r : Resource} (looping : Looping d r) :
    (Definition.mk r d.coordinates).onModified none = [.crashLoopStatus d] := by
  simp only [Definition.onModified, looping.crashLoop, if_true, Command.crashLoopStatus,
    looping.reference]

theorem Marked.harmless (marked : w.Marked d k) (gone : Table.get? d.jobKey k.jobs = none) :
    w.Harmless d := by
  rintro ticket event commands current ⟨rfl, -⟩ command member
  obtain ⟨type, looping⟩ := marked.received current
  have key : (event.definition w.kind).jobKey = d.jobKey := by
    rw [marked.recording.kind]
    exact JobKey.mk.injEq _ _ _ _ ▸
      ⟨congrArg StreamRef.space looping.reference, congrArg StreamRef.name looping.reference⟩
  rw [type, key, marked.recording.jobs, gone, marked.recording.kind] at member
  rw [show (event.definition d.coordinates).react .modified none = [.crashLoopStatus d] from
    onModified_of_looping looping] at member
  exact List.mem_singleton.1 member

/-- The definition stays marked under an edit, and what is heard of the edit says so. -/
theorem looping_become {deletion : String} {k' : Cluster}
    (edits : Cluster.Edits d.reference.key (Definition.Later d.coordinates) w.cluster k')
    (stored : ∃ r, Table.get? d.reference.key w.cluster.resources = some r ∧ Looping d r)
    (queued : ∀ event ∈ w.definitionEvents, event.type = .modified ∧ Looping d event.resource) :
    (∃ r, Table.get? d.reference.key k'.resources = some r ∧ Looping d r) ∧
      ∀ event ∈ (w.become k' deletion).definitionEvents,
        event.type = .modified ∧ Looping d event.resource := by
  obtain ⟨r, found, looping⟩ := stored
  constructor
  · rcases edits.target found with same | ⟨r', written, later⟩
    · exact ⟨r, same, looping⟩
    · exact ⟨r', written, looping.later later⟩
  · intro event member
    rcases mem_definitionEvents_of_edits edits member with
      old | ⟨before, after, found', later, -, rfl⟩
    · exact queued event old
    · obtain rfl := Option.some.inj (found.symm.trans found')
      exact ⟨rfl, looping.later later⟩

theorem Marked.step (marked : w.Marked d k) (gone : Table.get? d.jobKey k.jobs = none)
    (own : move.isOwn = true) (moved : w.step move = some v) : v.Marked d k := by
  have recording : v.Recording d k := marked.recording.step (marked.harmless gone) own moved
  cases marked.recording.step_cases own moved with
  | @taken ticket event rest idle queue =>
    refine ⟨recording, marked.stored, ?_, ?_⟩
    · intro event' member
      exact marked.queued event' (queue ▸ List.mem_cons_of_mem _ member)
    · intro ticket' event' current
      cases current
      exact marked.queued event (queue ▸ List.mem_cons_self)
  | streams advance edits =>
    obtain ⟨stored, queued⟩ := looping_become edits marked.stored marked.queued
    exact ⟨recording, stored, queued, fun current => absurd current (advance.ne_received _ _)⟩
  | jobs advance edits =>
    obtain ⟨stored, queued⟩ := looping_become edits marked.stored marked.queued
    exact ⟨recording, stored, queued, marked.received⟩

theorem Marked.run {moves : List Move} (marked : w.Marked d k)
    (gone : Table.get? d.jobKey k.jobs = none) (own : ∀ move ∈ moves, move.isOwn = true)
    (ran : w.run moves = some v) : v.Marked d k :=
  run_preserves (Q := fun move => move.isOwn = true)
    (fun own marked moved => marked.step gone own moved) own marked ran

/-! ## The status changes nothing -/

/-- The definition is as it was, and the stream reconciler has heard nothing. The job reconciler has
yet to write the status to the cluster of the beginning, or is past that. -/
structure Calm (d : Definition) (k : Cluster) (w : World) : Prop where
  recording : w.Recording d k
  waiting : ∃ ticket, w.streamStage = .idle ticket
  unheard : w.definitionEvents = []
  stored : Table.get? d.reference.key w.cluster.resources = some d.resource
  progress : (w.cluster = k ∧ w.jobStage.commands = [.crashLoopStatus d, .markCrashLoop d]) ∨
    ∀ command ∈ w.jobStage.commands, command = .markCrashLoop d

/-- Nothing is heard of an edit that leaves the definition as it was. -/
theorem unheard_become {deletion : String} {k' : Cluster} {P : Resource → Resource → Prop}
    {key : ResourceKey} (edits : Cluster.Edits key P w.cluster k') (unheard : w.definitionEvents = [])
    (same : Table.get? key k'.resources = Table.get? key w.cluster.resources) :
    (w.become k' deletion).definitionEvents = [] := by
  have unchanged : ∀ other,
      Table.get? other k'.resources = Table.get? other w.cluster.resources := by
    intro other
    by_cases own : other = key
    · rw [own, same]
    · exact edits.elsewhere own
  show w.definitionEvents ++ _ = []
  rw [unheard, Table.changes_eq_nil unchanged]
  rfl

/-- What is left to the job reconciler after it went on is the mark at most. -/
theorem Calm.left_of_advance (calm : w.Calm d k) {stage : RunStage Job} {k' : Cluster}
    (advance : Run.Advance setting.handler JobDecision w.cluster k' w.jobStage stage) :
    ∀ command ∈ stage.commands, command = .markCrashLoop d := by
  intro command left
  generalize current : w.jobStage = before at advance
  have progress := calm.progress
  rw [current] at progress
  cases advance with
  | dropped _ idle =>
    rw [RunStage.commands_eq_nil idle] at left
    cases left
  | @decided ticket event => exact absurd current (calm.recording.undecided ticket event)
  | finished => cases left
  | handled _ after =>
    rcases after with idle | rfl
    · rw [RunStage.commands_eq_nil idle] at left
      cases left
    · rcases progress with ⟨-, both⟩ | mark
      · obtain ⟨-, rfl⟩ := List.cons.inj both
        exact List.mem_singleton.1 left
      · exact mark command (List.mem_cons_of_mem _ left)

/-- If the status changes nothing, the definition is as it was or marked when the job reconciler went
on. -/
theorem Calm.target_of_advance (calm : w.Calm d k)
    (void : ∀ setting : Setting, Table.get? d.reference.key
      (setting.handler.handle (.crashLoopStatus d) k).2.resources = some d.resource)
    {stage : RunStage Job} {k' : Cluster}
    (advance : Run.Advance setting.handler JobDecision w.cluster k' w.jobStage stage) :
    Table.get? d.reference.key k'.resources = some d.resource ∨
      ∃ r, Table.get? d.reference.key k'.resources = some r ∧ Looping d r := by
  generalize current : w.jobStage = before at advance
  have progress := calm.progress
  rw [current] at progress
  cases advance with
  | dropped content | decided content | finished content =>
    rw [content.resources]
    exact .inl calm.stored
  | @handled _ command rest _ content =>
    rw [content.resources]
    rcases progress with ⟨first, both⟩ | mark
    · obtain ⟨rfl, -⟩ := List.cons.inj both
      rw [first]
      exact .inl (void setting)
    · obtain rfl := mark command List.mem_cons_self
      rcases (markCrashLoop_edits setting w.cluster).target calm.stored with
        same | ⟨r, written, later, marked⟩
      · exact .inl same
      · exact .inr ⟨r, written, later.reference, marked⟩

/-- If the status changes nothing, all stays calm until the definition is marked. -/
theorem Calm.step (calm : w.Calm d k)
    (void : ∀ setting : Setting, Table.get? d.reference.key
      (setting.handler.handle (.crashLoopStatus d) k).2.resources = some d.resource)
    (own : move.isOwn = true) (moved : w.step move = some v) : v.Calm d k ∨ v.Marked d k := by
  obtain ⟨ticket, waiting⟩ := calm.waiting
  have harmless : w.Harmless d := by
    intro ticket' event commands current
    rw [waiting] at current
    cases current
  have recording : v.Recording d k := calm.recording.step harmless own moved
  cases calm.recording.step_cases own moved with
  | taken idle queue =>
    rw [calm.unheard] at queue
    cases queue
  | streams advance =>
    rw [waiting] at advance
    cases advance
  | @jobs stage dedup k' setting advance edits =>
    rcases calm.target_of_advance void advance with same | ⟨r, written, looping⟩
    · exact .inl ⟨recording, ⟨ticket, waiting⟩,
        unheard_become edits calm.unheard (same.trans calm.stored.symm), same,
        .inr (calm.left_of_advance advance)⟩
    · refine .inr ⟨recording, ⟨r, written, looping⟩, ?_, ?_⟩
      · intro event member
        rcases mem_definitionEvents_of_edits edits member with old | ⟨-, after, -, -, written', rfl⟩
        · have unheard : w.definitionEvents = [] := calm.unheard
          rw [unheard] at old
          cases old
        · obtain rfl := Option.some.inj (written.symm.trans written')
          exact ⟨rfl, looping⟩
      · intro ticket' event current
        have waiting' : w.streamStage = .idle ticket := waiting
        rw [waiting'] at current
        cases current

theorem Calm.run {moves : List Move} (calm : w.Calm d k)
    (void : ∀ setting : Setting, Table.get? d.reference.key
      (setting.handler.handle (.crashLoopStatus d) k).2.resources = some d.resource)
    (gone : Table.get? d.jobKey k.jobs = none) (own : ∀ move ∈ moves, move.isOwn = true)
    (ran : w.run moves = some v) : v.Calm d k ∨ v.Marked d k := by
  have next : ∀ {w v : World} {move : Move}, move.isOwn = true →
      w.Calm d k ∨ w.Marked d k → w.step move = some v → v.Calm d k ∨ v.Marked d k := by
    rintro w v move own (calm | marked) moved
    · exact calm.step void own moved
    · exact .inr (marked.step gone own moved)
  exact run_preserves (Q := fun move => move.isOwn = true) next own (.inl calm) ran

/-! ## The start that follows otherwise -/

/-- The job reconciler has decided on the event that a failed job is gone, and has carried out nothing
yet. The stream reconciler waits and has heard nothing. -/
structure AboutToRecord (d : Definition) (job : Job) (k : Cluster) (w : World) : Prop where
  kind : w.kind = d.coordinates
  cluster : w.cluster = k
  recording : ∃ ticket, w.jobStage = .executing ticket (job.onDeleted (some d))
  waiting : ∃ ticket, w.streamStage = .idle ticket
  noDefinitionEvents : w.definitionEvents = []
  noJobEvents : w.jobEvents = []

/-- A world with nothing else to do. -/
def recordingWorld (d : Definition) (job : Job) (k : Cluster) : World where
  kind := d.coordinates
  cluster := k
  streamStage := .idle 0
  streamDedup := .empty 8
  jobStage := .executing 1 (job.onDeleted (some d))
  jobDedup := .empty 8
  created := fun key => (Table.contains key k.jobs).toNat
  deleted := fun _ => 0

theorem recordingWorld_about (d : Definition) (job : Job) (k : Cluster) :
    (recordingWorld d job k).AboutToRecord d job k :=
  ⟨rfl, rfl, ⟨1, rfl⟩, ⟨0, rfl⟩, rfl, rfl⟩

theorem onDeleted_of_failed (failed : job.isFailed = true) :
    job.onDeleted (some d) = [.crashLoopStatus d, .markCrashLoop d] := by
  simp only [Job.onDeleted, failed, if_true]

theorem AboutToRecord.recording_of_failed (about : w.AboutToRecord d job k)
    (failed : job.isFailed = true) : w.Recording d k := by
  obtain ⟨ticket, current⟩ := about.recording
  obtain ⟨ticket', waiting⟩ := about.waiting
  rw [onDeleted_of_failed failed] at current
  refine ⟨about.kind, by rw [about.cluster], by rw [about.cluster], about.noJobEvents, ?_,
    ?_, ?_⟩
  · intro ticket event
    simp [current]
  · intro command left
    rw [current] at left
    simpa [RunStage.commands] using left
  · intro command left
    rw [waiting] at left
    cases left

/-- The definition may be marked from the beginning. -/
theorem AboutToRecord.marked (about : w.AboutToRecord d job k) (failed : job.isFailed = true)
    (stored : Table.get? d.reference.key k.resources = some d.resource)
    (crashed : d.isCrashLoop = true) : w.Marked d k := by
  obtain ⟨ticket, waiting⟩ := about.waiting
  refine ⟨about.recording_of_failed failed, ⟨d.resource, ?_, rfl, crashed⟩, ?_, ?_⟩
  · rw [about.cluster, stored]
  · intro event member
    rw [about.noDefinitionEvents] at member
    cases member
  · intro ticket' event current
    rw [waiting] at current
    cases current

theorem AboutToRecord.calm (about : w.AboutToRecord d job k) (failed : job.isFailed = true)
    (stored : Table.get? d.reference.key k.resources = some d.resource) : w.Calm d k := by
  obtain ⟨ticket, current⟩ := about.recording
  refine ⟨about.recording_of_failed failed, about.waiting, about.noDefinitionEvents, ?_,
    .inl ⟨about.cluster, ?_⟩⟩
  · rw [about.cluster, stored]
  · rw [current, onDeleted_of_failed failed]
    rfl

/-- No job was created, and the stream reconciler is about to start none. -/
def Holds (k : Cluster) (v : World) : Prop :=
  v.cluster.jobs = k.jobs ∧ ∀ command ∈ v.commands .streams, command.isStartJob = false

theorem Recording.holds (recording : v.Recording d k) : v.Holds k := by
  refine ⟨recording.jobs, ?_⟩
  intro command left
  rw [recording.streamCommands command left]
  rfl

/-- A stream reconciler that has heard nothing hears first of an edit that changes its definition. -/
theorem exists_definitionEvents_of_edits (deletion : String) {r r' : Resource}
    {P : Resource → Resource → Prop} (edits : Cluster.Edits d.reference.key P w.cluster k')
    (kind : w.kind = d.coordinates) (unheard : w.definitionEvents = [])
    (stored : Table.get? d.reference.key w.cluster.resources = some r)
    (written : Table.get? d.reference.key k'.resources = some r') (differ : r ≠ r') :
    ∃ rest, (w.become k' deletion).definitionEvents = ⟨.modified, r'⟩ :: rest := by
  have reported : (d.reference.key, (⟨.modified, r'⟩ : Event Resource)) ∈
      Table.changes (Cluster.versioned · deletion) w.cluster.resources k'.resources := by
    rw [Table.mem_changes, stored, written]
    exact if_neg differ
  have own : d.reference.key.plural = w.kind.plural := congrArg Coordinates.plural kind.symm
  have member := definitionEvents_become_of_mem own reported
  cases queue : (w.become k' deletion).definitionEvents with
  | nil =>
    rw [queue] at member
    cases member
  | cons event rest =>
    have first : event ∈ (w.become k' deletion).definitionEvents := by
      rw [queue]
      exact List.mem_cons_self
    rcases mem_definitionEvents_of_edits edits first with old | ⟨-, after, -, -, written', rfl⟩
    · rw [unheard] at old
      cases old
    · obtain rfl := Option.some.inj (written.symm.trans written')
      exact ⟨rest, rfl⟩

/-- The stream reconciler hears first of the status, if it changes the definition. -/
theorem AboutToRecord.heard (about : w.AboutToRecord d job k) (failed : job.isFailed = true)
    (stored : Table.get? d.reference.key k.resources = some d.resource)
    (changes : Table.get? d.reference.key
      (setting.handler.handle (.crashLoopStatus d) k).2.resources ≠ some d.resource) :
    ∃ (stage : RunStage Job) (dedup : Deduplicator) (k' : Cluster) (status : Json) (version : String)
      (rest : List (Event Resource)),
      w.step (.work .jobs setting)
        = some ({ w with jobStage := stage, jobDedup := dedup }.become k' setting.deletion) ∧
      k'.jobs = k.jobs ∧ k'.failing = k.failing ∧
      ({ w with jobStage := stage, jobDedup := dedup }.become k' setting.deletion).definitionEvents
        = ⟨.modified, Cluster.restated d.resource status version⟩ :: rest := by
  obtain ⟨ticket, current⟩ := about.recording
  obtain rfl := about.cluster
  rw [onDeleted_of_failed failed] at current
  obtain ⟨v, moved⟩ := exists_step_work_jobs current setting
  obtain ⟨stage, dedup, k', rfl, advance⟩ := step_work_jobs moved
  rw [current] at advance
  cases advance with
  | handled content =>
    have edits := (Handler.updateStatus_edits (h := setting.handler) rfl .failed
      (StreamPhase.conditions .failed Condition.Reason.crashLoop
        "Stream job failed; remove the crash-loop annotation to restart") w.cluster).content content
    rw [← content.resources] at changes
    rcases edits.target stored with same | ⟨r', written, status, version, rfl⟩
    · exact absurd same changes
    · have differ : d.resource ≠ Cluster.restated d.resource status version := by
        intro same
        rw [written, ← same] at changes
        exact changes rfl
      have unheard : w.definitionEvents = [] := about.noDefinitionEvents
      obtain ⟨rest, heard⟩ := exists_definitionEvents_of_edits
        (w := { w with jobStage := stage, jobDedup := dedup }) setting.deletion
        edits about.kind unheard stored written differ
      exact ⟨stage, dedup, k', status, version, rest, moved, edits.jobs, edits.failing, heard⟩

/-- A definition without a job is started unless it is marked or suspended. -/
theorem start_mem_onModified (unmarked : d.isCrashLoop = false) (active : d.isSuspended = false) :
    ∃ backfilling, Command.startJob d backfilling ∈ d.onModified none := by
  by_cases requested : d.isReloadRequested = true
  · exact ⟨true, by simp [Definition.onModified, unmarked, active, requested]⟩
  · exact ⟨false, by simp [Definition.onModified, unmarked, active, requested]⟩

/-- A stream reconciler that has seen nothing yet decides on the first modification it takes. -/
theorem decides_on_modified (setting : Setting) {ticket capacity : Nat} {r : Resource}
    (current : w.streamStage = .received ticket ⟨.modified, r⟩)
    (unseen : w.streamDedup = .empty capacity)
    (works : w.cluster.failing.contains "get_job" = false) :
    ∃ v, w.step (.work .streams setting) = some v ∧ v.commands .streams =
      (Definition.mk r w.kind).onModified
        (Table.get? (Definition.mk r w.kind).jobKey w.cluster.jobs) := by
  have passes : (w.streamRun.dedup.filter 0 w.streamRun.reconciler.kind
      (w.streamRun.reconciler.metadata r)).1 = true := by
    show (w.streamDedup.filter 0 w.kind.kind r.metadata).1 = true
    rw [unseen]
    exact passes_empty capacity 0 w.kind.kind r.metadata
  have present : (⟨.modified, r⟩ : Event Resource).type ≠ .deleted := by simp
  have planned := Reconciler.planStream_of_works (c := w.kind) present works
  obtain ⟨run, taken, decided⟩ := Run.step_of_received (r := w.streamRun) (h := setting.handler)
    current passes planned
  have busy : w.streamStage.isBusy = true := by rw [current]; rfl
  refine ⟨_, by rw [World.step, if_pos busy, taken]; rfl, ?_⟩
  show run.stage.commands = _
  rw [decided]
  rfl

/-- A status that changes an unmarked definition is followed by a start. -/
theorem exists_start (failed : job.isFailed = true)
    (stored : Table.get? d.reference.key k.resources = some d.resource)
    (active : d.isSuspended = false) (gone : Table.get? d.jobKey k.jobs = none)
    (unmarked : d.isCrashLoop = false) (works : k.failing.contains "get_job" = false)
    (changes : Table.get? d.reference.key
      (setting.handler.handle (.crashLoopStatus d) k).2.resources ≠ some d.resource) :
    ∃ (w v : World) (moves : List Move), w.AboutToRecord d job k ∧
      (∀ move ∈ moves, move.isOwn = true) ∧ w.run moves = some v ∧ ¬ v.Holds k := by
  let w := recordingWorld d job k
  have about : w.AboutToRecord d job k := recordingWorld_about d job k
  obtain ⟨stage, dedup, k', status, version, rest, recorded, jobs, failing, heard⟩ :=
    about.heard failed stored changes
  let later : Definition := ⟨Cluster.restated d.resource status version, d.coordinates⟩
  let told := { w with jobStage := stage, jobDedup := dedup }.become k' setting.deletion
  let received : World :=
    { told with streamStage := .received 0 ⟨.modified, later.resource⟩, definitionEvents := rest }
  have took : told.step (.take .streams) = some received := step_take_streams rfl heard
  obtain ⟨v, decided, commands⟩ := decides_on_modified (w := received) setting rfl rfl
    (show k'.failing.contains "get_job" = false from failing ▸ works)
  have free : Table.get? later.jobKey k'.jobs = none := by
    rw [jobs]
    exact gone
  obtain ⟨backfilling, start⟩ := start_mem_onModified (d := later) unmarked active
  refine ⟨w, v, [.work .jobs setting, .take .streams, .work .streams setting], about,
    by simp [Move.isOwn], ?_, ?_⟩
  · simp only [World.run, recorded, Option.bind_some]
    rw [show World.step _ (.take .streams) = some received from took, Option.bind_some, decided]
    rfl
  · intro holds
    have commands : v.commands .streams = later.onModified (Table.get? later.jobKey k'.jobs) :=
      commands
    rw [free] at commands
    have refused := holds.2 (.startJob later backfilling) (commands ▸ start)
    cases refused

/-- A failed job is gone, and its definition is active. Whatever the order in which the job reconciler
writes the status and the mark and the stream reconciler hears of them, no job is started, exactly when
the definition is marked already, the stream reconciler cannot look for its job, or the status changes
nothing at any time. -/
theorem crash_loop_holds_iff (failed : job.isFailed = true)
    (stored : Table.get? d.reference.key k.resources = some d.resource)
    (active : d.isSuspended = false) (gone : Table.get? d.jobKey k.jobs = none) :
    (∀ (w v : World) (moves : List Move), w.AboutToRecord d job k →
      (∀ move ∈ moves, move.isOwn = true) → w.run moves = some v → v.Holds k) ↔
    d.isCrashLoop = true ∨ k.failing.contains "get_job" = true ∨
      ∀ setting : Setting, Table.get? d.reference.key
        (setting.handler.handle (.crashLoopStatus d) k).2.resources = some d.resource := by
  constructor
  · intro holds
    by_contra otherwise
    simp only [not_or, not_forall, Bool.not_eq_true] at otherwise
    obtain ⟨unmarked, works, setting, changes⟩ := otherwise
    obtain ⟨w, v, moves, about, own, ran, escaped⟩ :=
      exists_start failed stored active gone unmarked works changes
    exact escaped (holds w v moves about own ran)
  · intro condition w v moves about own ran
    rcases condition with crashed | failing | void
    · have marked : v.Marked d k := (about.marked failed stored crashed).run gone own ran
      exact marked.recording.holds
    · have recording : v.Recording d k := (about.recording_of_failed failed).run failing own ran
      exact recording.holds
    · rcases (about.calm failed stored).run void gone own ran with calm | marked
      · exact calm.recording.holds
      · exact marked.recording.holds

/-- A job of the stream in `Orders` that has failed. -/
def failedOrders : Job := Orders.job "4" none [("Failed", "True")]

/-- A definition that was marked before stays down. -/
theorem crash_loop_holds_when_marked : ∃ (d : Definition) (w : World),
    w.AboutToRecord d failedOrders (Orders.cluster d []) ∧ d.isCrashLoop = true ∧
      ∀ (v : World) (moves : List Move), (∀ move ∈ moves, move.isOwn = true) →
        w.run moves = some v → v.Holds (Orders.cluster d []) := by
  let d := Orders.definition "3" (some .crashLoop)
  have failed : failedOrders.isFailed = true := by decide
  have stored : Table.get? d.reference.key (Orders.cluster d []).resources = some d.resource := by
    decide
  have active : d.isSuspended = false := by decide
  have gone : Table.get? d.jobKey (Orders.cluster d []).jobs = none := rfl
  have marked : d.isCrashLoop = true := by decide
  have about := recordingWorld_about d failedOrders (Orders.cluster d [])
  exact ⟨d, recordingWorld d failedOrders (Orders.cluster d []), about, marked, fun v moves own ran =>
    (crash_loop_holds_iff failed stored active gone).2 (.inl marked) _ v moves about own ran⟩

/-- The stream reconciler hears of the status before the definition is marked and starts a job, and the
job is there when the mark is. -/
theorem crash_loop_is_escaped : ∃ (d : Definition) (job : Job) (k : Cluster) (w v : World)
    (moves : List Move), job.isFailed = true ∧
      Table.get? d.reference.key k.resources = some d.resource ∧ d.isSuspended = false ∧
      Table.get? d.jobKey k.jobs = none ∧ w.AboutToRecord d job k ∧
      (∀ move ∈ moves, move.isOwn = true) ∧ w.run moves = some v ∧
      Table.contains d.jobKey v.cluster.jobs = true ∧
      ((Table.get? d.reference.key v.cluster.resources).any fun r =>
        (Definition.mk r d.coordinates).isCrashLoop) = true := by
  let d := Orders.definition "3" none
  let moves : List Move := [Orders.work .jobs, .take .streams, Orders.work .streams,
    Orders.work .streams, Orders.work .jobs]
  have evaluated : ((recordingWorld d failedOrders (Orders.cluster d [])).run moves).map (fun v =>
      (Table.contains d.jobKey v.cluster.jobs,
        (Table.get? d.reference.key v.cluster.resources).any fun r =>
          (Definition.mk r d.coordinates).isCrashLoop)) = some (true, true) := by
    decide +kernel
  obtain ⟨v, ran, facts⟩ := Option.map_eq_some_iff.1 evaluated
  obtain ⟨present, marked⟩ := Prod.mk.inj facts
  exact ⟨d, _, _, _, v, moves, by decide, by decide, by decide, by decide,
    recordingWorld_about d _ _, by simp [moves, Orders.work, Move.isOwn], ran, present, marked⟩

end World

end StreamOperator
