import StreamOperator.Proofs.Reconcile.World

/-!
# What a move can do

A busy run decides on its event, and then leaves the cluster as it was, or it carries out its next
command and does nothing else to the cluster (`Run.Advance`). Later proofs take the moves of a world
apart by `World.step_work_streams` and `World.step_work_jobs`.
-/

set_option autoImplicit false

namespace StreamOperator

/-- The clusters differ at most in their watches and records. -/
structure Cluster.SameContent (k k' : Cluster) : Prop where
  resources : k'.resources = k.resources
  jobs : k'.jobs = k.jobs
  failing : k'.failing = k.failing

theorem Cluster.SameContent.refl (k : Cluster) : k.SameContent k := ⟨rfl, rfl, rfl⟩

/-- A cluster with the same jobs shows the same effect. -/
theorem JobEffect.of_jobs {k k' k'' : Cluster} {command : Command} (effect : JobEffect k k' command)
    (same : k''.jobs = k'.jobs) : JobEffect k k'' command := by
  cases effect with
  | kept untouched => exact .kept (same.trans untouched)
  | marked found place written => exact .marked found place (same.trans written)
  | created free place label written => exact .created free place label (same.trans written)
  | removed found written => exact .removed found (same.trans written)

/-- Commands that are left belong to a run that is busy. -/
theorem RunStage.commands_eq_nil {α : Type} {stage : RunStage α} (idle : stage.isBusy = false) :
    stage.commands = [] := by
  cases stage with
  | executing ticket commands => cases idle
  | _ => rfl

namespace Run

variable {α : Type} {r r' : Run α} {k k' : Cluster} {h : Handler Cluster}

/-- To give up the subscription leaves the content of a cluster as it is. -/
def LeavesContent (r : Run α) : Prop := ∀ ticket (k : Cluster), k.SameContent (r.feed.leave ticket k)

/-- After an item the run waits for the next one or has ended. -/
theorem afterItem_cases {ticket : Nat} {result : Except Failure Unit}
    (taken : r.afterItem ticket result k = (r', k')) (leaves : r.LeavesContent) :
    r'.stage.isBusy = false ∧ k.SameContent k' := by
  unfold afterItem at taken
  split at taken
  · obtain ⟨rfl, rfl⟩ := Prod.mk.inj taken
    exact ⟨rfl, leaves ticket k⟩
  · obtain ⟨rfl, rfl⟩ := Prod.mk.inj taken
    exact ⟨rfl, .refl k⟩

/-- The ways in which a busy run goes on: it drops its event or decides on it, is done with its
commands, or carries out the next one. A decision is described by a relation. -/
inductive Advance (h : Handler Cluster) (Decides : Event α → List Command → Prop) (k k' : Cluster) :
    RunStage α → RunStage α → Prop where
  | dropped {ticket : Nat} {event : Event α} {stage : RunStage α} (content : k.SameContent k')
      (idle : stage.isBusy = false) : Advance h Decides k k' (.received ticket event) stage
  | decided {ticket : Nat} {event : Event α} {commands : List Command} (content : k.SameContent k')
      (decision : Decides event commands) :
      Advance h Decides k k' (.received ticket event) (.executing ticket commands)
  | finished {ticket : Nat} (content : k.SameContent k') :
      Advance h Decides k k' (.executing ticket []) (.idle ticket)
  | handled {ticket : Nat} {command : Command} {rest : List Command} {stage : RunStage α}
      (content : (h.handle command k).2.SameContent k')
      (left : stage.isBusy = false ∨ stage = .executing ticket rest) :
      Advance h Decides k k' (.executing ticket (command :: rest)) stage

theorem step_advance {Decides : Event α → List Command → Prop} (leaves : r.LeavesContent)
    (reads : ∀ event, (r.reconciler.plan h.api event).Reads)
    (decided : ∀ event commands,
      r.reconciler.plan h.api event k = (.ok commands, k) → Decides event commands)
    (busy : r.stage.isBusy = true) (taken : r.step h false k = some (r', k')) :
    Advance h Decides k k' r.stage r'.stage := by
  cases stage : r.stage with
  | subscribing | idle | ended =>
    rw [stage] at busy
    cases busy
  | received ticket event =>
    simp only [step, stage] at taken
    split at taken
    · cases taken
      exact .dropped (.refl k) rfl
    · have same := reads event k
      split at taken
      · rename_i commands after planned
        obtain rfl : after = k := by simpa [planned] using same
        cases taken
        exact .decided (.refl _) (decided event commands planned)
      · rename_i e after planned
        obtain rfl : after = k := by simpa [planned] using same
        obtain ⟨idle, content⟩ := afterItem_cases (Option.some.inj taken) leaves
        exact .dropped content idle
  | executing ticket commands =>
    cases commands with
    | nil =>
      simp only [step, stage, Option.some.injEq, Prod.mk.injEq] at taken
      obtain ⟨rfl, rfl⟩ := taken
      exact .finished (.refl k)
    | cons command rest =>
      simp only [step, stage] at taken
      split at taken
      · rename_i after handled
        cases taken
        refine .handled ?_ (.inr rfl)
        rw [handled]
        exact .refl _
      · rename_i e after handled
        obtain ⟨idle, content⟩ := afterItem_cases (Option.some.inj taken) leaves
        refine .handled ?_ (.inl idle)
        rw [handled]
        exact content

/-- A run that has commands left goes on. -/
theorem step_of_executing {ticket : Nat} {command : Command} {rest : List Command}
    (stage : r.stage = .executing ticket (command :: rest)) :
    (r.step h false k).isSome = true := by
  simp only [step, stage]
  split <;> rfl

/-- A run decides on an event that is not a repetition. -/
theorem step_of_received {ticket : Nat} {event : Event α} {commands : List Command}
    (stage : r.stage = .received ticket event)
    (passes : (r.dedup.filter 0 r.reconciler.kind (r.reconciler.metadata event.resource)).1 = true)
    (planned : r.reconciler.plan h.api event k = (.ok commands, k)) :
    ∃ r', r.step h false k = some (r', k) ∧ r'.stage = .executing ticket commands := by
  simp only [step, stage, passes, planned]
  exact ⟨_, rfl, rfl⟩

variable {Decides : Event α → List Command → Prop} {stage stage' : RunStage α}

/-- The jobs change by the effect of the next command only. -/
theorem Advance.jobs (advance : Advance h Decides k k' stage stage')
    (inMemory : h.api = Cluster.api) : k'.jobs = k.jobs ∨
      ∃ command rest, stage.commands = command :: rest ∧ JobEffect k k' command := by
  cases advance with
  | dropped content | decided content | finished content => exact .inl content.jobs
  | @handled ticket command rest _ content =>
    have effect := Handler.handle_jobEffect inMemory command k
    exact .inr ⟨command, rest, rfl, effect.of_jobs content.jobs⟩

/-- The commands to carry out were there before, or they have just been decided on. -/
theorem Advance.commands (advance : Advance h Decides k k' stage stage') {command : Command}
    (left : command ∈ stage'.commands) :
    ((∀ ticket event, stage ≠ .received ticket event) ∧ command ∈ stage.commands) ∨
      ∃ ticket event commands, stage = .received ticket event ∧ Decides event commands ∧
        command ∈ commands := by
  cases advance with
  | dropped _ idle =>
    rw [RunStage.commands_eq_nil idle] at left
    cases left
  | @decided ticket event commands _ decision => exact .inr ⟨ticket, event, commands, rfl, decision, left⟩
  | finished => cases left
  | handled _ after =>
    refine .inl ⟨fun _ _ => by simp, ?_⟩
    rcases after with idle | rfl
    · rw [RunStage.commands_eq_nil idle] at left
      cases left
    · exact List.mem_cons_of_mem _ left

/-- A run that goes on has decided already. -/
theorem Advance.ne_received (advance : Advance h Decides k k' stage stage') (ticket : Nat)
    (event : Event α) : stage' ≠ .received ticket event := by
  rintro rfl
  cases advance with
  | dropped _ idle => cases idle
  | handled _ after =>
    rcases after with idle | same
    · cases idle
    · cases same

end Run

/-! ## Plans -/

theorem Reconciler.planStream_reads (c : Coordinates) (event : Event Resource) :
    (Reconciler.planStream c Cluster.api event).Reads := by
  unfold planStream
  split
  · exact .pure _
  · exact .bind Cluster.getJob_reads fun _ => .pure _

/-- The stream reconciler decides on its event and the job that is stored at the moment. -/
theorem Reconciler.planStream_ok {c : Coordinates} {event : Event Resource} {k : Cluster}
    {commands : List Command}
    (planned : Reconciler.planStream c Cluster.api event k = (.ok commands, k)) :
    commands = (event.definition c).react event.type
      (Table.get? (event.definition c).jobKey k.jobs) ∧
      (event.type = .deleted ∨ k.failing.contains "get_job" = false) := by
  unfold planStream at planned
  split at planned
  · rename_i deleted
    obtain rfl := Except.ok.inj (Prod.mk.inj planned).1
    exact ⟨by rw [deleted]; rfl, .inl deleted⟩
  · have look : Cluster.api.getJob = Cluster.getJob := rfl
    rw [look, Act.bind_apply, Cluster.getJob_apply] at planned
    by_cases failing : k.failing.contains "get_job" = true
    · simp only [if_pos failing] at planned
      cases planned
    · simp only [if_neg failing] at planned
      obtain rfl := Except.ok.inj (Prod.mk.inj planned).1
      exact ⟨rfl, .inr (by simpa using failing)⟩

/-- A definition that has not gone is decided on if its job can be looked for. -/
theorem Reconciler.planStream_of_works {c : Coordinates} {event : Event Resource} {k : Cluster}
    (present : event.type ≠ .deleted) (works : k.failing.contains "get_job" = false) :
    Reconciler.planStream c Cluster.api event k = (.ok ((event.definition c).react event.type
      (Table.get? (event.definition c).jobKey k.jobs)), k) := by
  have found : Cluster.api.getJob (event.definition c).space (event.definition c).id k
      = (.ok (k.job? (event.definition c).space (event.definition c).id), k) := by
    show Cluster.getJob _ _ k = _
    rw [Cluster.getJob_apply, works]
    rfl
  unfold planStream
  rw [if_neg present]
  exact Act.bind_ok found

theorem Reconciler.planJob_reads (event : Event Job) :
    (Reconciler.planJob Cluster.api event).Reads := by
  have looks : (Reconciler.owner Cluster.api event.resource).Reads := by
    unfold owner
    split
    · exact .pure _
    · exact .bind Cluster.getResource_reads fun _ => .pure _
  unfold planJob
  split
  · exact .bind (.pure _) fun _ => .pure _
  · exact .bind looks fun _ => .pure _

/-- The job reconciler decides on its event and the definition that owns the job. -/
theorem Reconciler.planJob_yields (event : Event Job) :
    (Reconciler.planJob Cluster.api event).Yields fun commands =>
      ∃ owner, commands = event.resource.react event.type owner := by
  have decided : ∀ owner : Option Definition,
      (pure (event.resource.react event.type owner) : Act Cluster (List Command)).Yields
        fun commands => ∃ owner, commands = event.resource.react event.type owner := by
    intro owner s s' commands planned
    exact ⟨owner, (Except.ok.inj (Prod.mk.inj planned).1).symm⟩
  unfold planJob
  split <;> exact .bind decided

namespace World

variable {w v : World} {setting : Setting}

/-- A deduplicator that has seen nothing lets everything pass. -/
theorem passes_empty (capacity choice : Nat) (kind : String) (m : Metadata) :
    ((Deduplicator.empty capacity).filter choice kind m).1 = true := by
  unfold Deduplicator.filter
  split <;> rfl

/-- The stream reconciler decides on the job that is stored, if it can be looked up. -/
def StreamDecision (w : World) (event : Event Resource) (commands : List Command) : Prop :=
  commands = (event.definition w.kind).react event.type
    (Table.get? (event.definition w.kind).jobKey w.cluster.jobs) ∧
    (event.type = .deleted ∨ w.cluster.failing.contains "get_job" = false)

def JobDecision (event : Event Job) (commands : List Command) : Prop :=
  ∃ owner, commands = event.resource.react event.type owner

/-- An idle stream reconciler takes the first event of its queue. -/
theorem step_take_streams {ticket : Nat} {event : Event Resource} {rest : List (Event Resource)}
    (idle : w.streamStage = .idle ticket) (queue : w.definitionEvents = event :: rest) :
    w.step (.take .streams) =
      some { w with streamStage := .received ticket event, definitionEvents := rest } := by
  simp only [step, idle, queue]

/-- A job reconciler that has commands left goes on. -/
theorem exists_step_work_jobs {ticket : Nat} {command : Command} {rest : List Command}
    (current : w.jobStage = .executing ticket (command :: rest)) (setting : Setting) :
    ∃ v, w.step (.work .jobs setting) = some v := by
  have busy : w.jobStage.isBusy = true := by
    rw [current]
    rfl
  obtain ⟨⟨r, k⟩, taken⟩ := Option.isSome_iff_exists.1
    (Run.step_of_executing (r := w.jobRun) (h := setting.handler) (k := w.cluster) current)
  exact ⟨_, by rw [step, if_pos busy, taken]; rfl⟩

/-- What becomes of the world when the stream reconciler goes on. -/
theorem step_work_streams (moved : w.step (.work .streams setting) = some v) :
    ∃ stage dedup k,
      v = { w with
        streamStage := stage
        streamDedup := dedup
        streamBasis := w.nextBasis }.become k setting.deletion ∧
      Run.Advance setting.handler w.StreamDecision w.cluster k w.streamStage stage := by
  simp only [step] at moved
  split at moved
  · rename_i busy
    obtain ⟨⟨r, k⟩, taken, rfl⟩ := Option.map_eq_some_iff.1 moved
    exact ⟨r.stage, r.dedup, k, rfl, Run.step_advance (r := w.streamRun) (fun _ _ => ⟨rfl, rfl, rfl⟩)
      (Reconciler.planStream_reads w.kind) (fun _ _ => Reconciler.planStream_ok) busy taken⟩
  · cases moved

/-- What becomes of the world when the job reconciler goes on. -/
theorem step_work_jobs (moved : w.step (.work .jobs setting) = some v) :
    ∃ stage dedup k,
      v = { w with jobStage := stage, jobDedup := dedup }.become k setting.deletion ∧
      Run.Advance setting.handler JobDecision w.cluster k w.jobStage stage := by
  simp only [step] at moved
  split at moved
  · rename_i busy
    obtain ⟨⟨r, k⟩, taken, rfl⟩ := Option.map_eq_some_iff.1 moved
    exact ⟨r.stage, r.dedup, k, rfl, Run.step_advance (r := w.jobRun) (fun _ _ => ⟨rfl, rfl, rfl⟩)
      Reconciler.planJob_reads (fun event _ planned => Reconciler.planJob_yields event _ _ _ planned)
      busy taken⟩
  · cases moved

/-- A reconciler that goes on changes the jobs by the effect of its next command only. -/
theorem work_jobEffect {actor : Actor} (moved : w.step (.work actor setting) = some v) :
    v.cluster.jobs = w.cluster.jobs ∨ ∃ command rest,
      w.commands actor = command :: rest ∧ JobEffect w.cluster v.cluster command := by
  cases actor with
  | streams =>
    obtain ⟨stage, dedup, k, rfl, advance⟩ := step_work_streams moved
    exact advance.jobs rfl
  | jobs =>
    obtain ⟨stage, dedup, k, rfl, advance⟩ := step_work_jobs moved
    exact advance.jobs rfl

/-- A reconciler that goes on counts the jobs it deletes. -/
theorem work_deleted {actor : Actor} (moved : w.step (.work actor setting) = some v)
    (key : JobKey) : v.deleted key = w.deleted key
      + (Table.contains key w.cluster.jobs && !Table.contains key v.cluster.jobs).toNat := by
  cases actor with
  | streams =>
    obtain ⟨stage, dedup, k, rfl, -⟩ := step_work_streams moved
    rfl
  | jobs =>
    obtain ⟨stage, dedup, k, rfl, -⟩ := step_work_jobs moved
    rfl

end World

end StreamOperator
