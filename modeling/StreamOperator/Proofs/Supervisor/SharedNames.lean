import StreamOperator.Proofs.Supervisor.Fleet

/-!
# Streams that share a name

The job of a stream is looked up, and named, by the namespace and the name of the definition. The kind
of the definition has no part in it, though every job records it. So one stream stops or annotates the
job of another (`Fleet.Touches`), or has its own start counted as done because of that job
(`Fleet.Swallows`), exactly when both have the same namespace and name, whatever their kinds are
(`Fleet.streams_meet_iff`).
-/

set_option autoImplicit false

namespace StreamOperator

theorem Supervisor.advance_of_received {s s' : Supervisor} {p : Pipeline} {run : Run Resource}
    {ticket : Nat} {event : Event Resource} {now : String} {clock : Nat} {stage : PipelineStage}
    {k k' : Cluster} (running : p.stage = .running run) (received : run.stage = .received ticket event)
    (taken : s.advance now clock p k = some (stage, s', k')) :
    ∃ run', stage = .running run' ∧ run.step (s.handler now) (s.isCancelled p) k = some (run', k') := by
  have unended : run.result? = none := by simp [Run.result?, received]
  simp only [advance, running, unended] at taken
  obtain ⟨⟨run', k''⟩, went, same⟩ := Option.map_eq_some_iff.1 taken
  cases same
  exact ⟨run', rfl, went⟩

namespace Fleet

/-- Who carries out commands: the pipeline with a number, or the run of the jobs. -/
inductive Worker where
  | pipeline (n : Nat)
  | jobs

/-- What an event is about. -/
inductive Subject where
  | definition (d : Definition)
  | job (job : Job)

/-- The key of the stream's job, as far as the subject tells. -/
def Subject.jobKey : Subject → JobKey
  | definition d => d.jobKey
  | job found => found.key

/-- The definition is the stream's, or the job records that it is and stands under its name. -/
inductive Subject.IsOf (a : StreamRef) : Subject → Prop where
  | definition {d : Definition} (own : d.reference = a) : IsOf a (.definition d)
  | job {job : Job} (owner : job.owner? = some a) (named : job.key = a.jobKey) : IsOf a (.job job)

theorem Subject.IsOf.jobKey_eq {a : StreamRef} {subject : Subject} (own : subject.IsOf a) :
    subject.jobKey = a.jobKey := by
  cases own with
  | definition own =>
    rw [← own]
    rfl
  | job _ named => exact named

variable {u v w : Fleet} {worker : Worker} {subject : Subject} {command : Command} {key : JobKey}
  {a b : StreamRef}

/-- A worker has yet to carry out a command. -/
def UnderWay (w : Fleet) (command : Command) : Worker → Prop
  | .pipeline n => ∃ p run, w.supervisor.pipeline? n = some p ∧ p.stage = .running run ∧
      command ∈ run.stage.commands
  | .jobs => command ∈ w.jobs.stage.commands

/-- With a step a worker decides on a command for an event. -/
inductive Decides (u v : Fleet) (command : Command) : Worker → Subject → Prop where
  | definition {n : Nat} {p : Pipeline} {run : Run Resource} {ticket : Nat} {event : Event Resource}
      {now : String} {clock : Nat} {s : Supervisor} {k : Cluster}
      (found : u.supervisor.pipeline? n = some p) (running : p.stage = .running run)
      (received : run.stage = .received ticket event)
      (taken : u.supervisor.stepPipeline now clock n u.cluster = some (s, k))
      (stepped : v = { u with supervisor := s, cluster := k })
      (left : v.UnderWay command (.pipeline n)) :
      Decides u v command (.pipeline n) (.definition (event.definition p.streamClass.target))
  | job {ticket : Nat} {event : Event Job} {now : String} {r : Run Job} {k : Cluster}
      (received : u.jobs.stage = .received ticket event)
      (taken : u.jobs.step (u.supervisor.handler now) u.supervisor.stopped u.cluster = some (r, k))
      (stepped : v = { u with jobs := r, cluster := k }) (left : v.UnderWay command .jobs) :
      Decides u v command .jobs (.job event.resource)

/-- A worker is to carry out a command next. -/
inductive Next (w : Fleet) (command : Command) : Worker → Prop where
  | pipeline {n : Nat} {p : Pipeline} {run : Run Resource} {ticket : Nat} {rest : List Command}
      (found : w.supervisor.pipeline? n = some p) (running : p.stage = .running run)
      (executing : run.stage = .executing ticket (command :: rest)) : Next w command (.pipeline n)
  | jobs {ticket : Nat} {rest : List Command}
      (executing : w.jobs.stage = .executing ticket (command :: rest)) : Next w command .jobs

/-- A command that was decided on for an event of one stream is to stop or annotate a job that belongs
to another, at any time until it is carried out. -/
inductive Touches (a b : StreamRef) : Prop where
  | intro {u v w : Fleet} {worker : Worker} {subject : Subject} {command : Command} {key : JobKey}
      {job : Job} (reachable : u.Reachable) (decided : u.Decides v command worker subject)
      (own : subject.IsOf a) (later : Reaches v w) (left : w.UnderWay command worker)
      (target : command.jobTarget? = some key) (stored : Table.get? key w.cluster.jobs = some job)
      (foreign : job.owner? = some b)

/-- The start of a job for one stream counts as done and does nothing: the job was prepared, but its
name is taken by a job that belongs to another. -/
inductive Swallows (a b : StreamRef) : Prop where
  | intro {w : Fleet} {worker : Worker} {d : Definition} {backfilling : Bool} {now : String}
      {job other : Job} (reachable : w.Reachable) (next : w.Next (.startJob d backfilling) worker)
      (own : d.reference = a)
      (prepared : (w.supervisor.handler now).prepareJob d backfilling w.cluster = (.ok job, w.cluster))
      (taken : w.cluster.job? d.space job.name = some other) (foreign : other.owner? = some b)
      (done : (w.supervisor.handler now).handle (.startJob d backfilling) w.cluster =
        (.ok (), w.cluster))

/-! ## Streams with different names -/

theorem Decides.step (decides : u.Decides v command worker subject) : u.Step v := by
  cases decides with
  | definition _ _ _ taken stepped => exact stepped ▸ .pipeline taken
  | job _ taken stepped => exact stepped ▸ .jobs taken

theorem Decides.left (decides : u.Decides v command worker subject) : v.UnderWay command worker := by
  cases decides with
  | definition _ _ _ _ _ left => exact left
  | job _ _ _ left => exact left

/-- What a pipeline decides on is for the job under the name of the definition. -/
theorem target_of_stepPipeline {p : Pipeline} {run : Run Resource} {ticket : Nat}
    {event : Event Resource} {now : String} {clock n : Nat} {s : Supervisor} {k : Cluster}
    (reachable : u.Reachable) (found : u.supervisor.pipeline? n = some p)
    (running : p.stage = .running run) (received : run.stage = .received ticket event)
    (taken : u.supervisor.stepPipeline now clock n u.cluster = some (s, k))
    (left : UnderWay { u with supervisor := s, cluster := k } command (.pipeline n))
    (target : command.jobTarget? = some key) :
    key = (event.definition p.streamClass.target).jobKey := by
  have session := reachable.session
  obtain ⟨p', stage, s', foundAgain, rfl, advanced, rfl, -⟩ :=
    Supervisor.advance_of_stepPipeline session.sound.tidy taken
  obtain rfl := Option.some.inj (found.symm.trans foundAgain)
  obtain ⟨after, rfl, went⟩ := Supervisor.advance_of_received running received advanced
  obtain ⟨q, run', found', running', left⟩ := left
  obtain rfl : after = run' := by
    change (s'.setPipeline { p with stage := .running after }).pipeline? p.seq = some q at found'
    rw [Supervisor.pipeline?_setPipeline, if_pos rfl] at found'
    obtain rfl := Option.some.inj found'
    exact PipelineStage.running.inj running'
  have serves := (session.orderly found).serves running
  rcases (Run.went_of_step went).2.commands left with
    before | ⟨ticket', event', commands, k'', same, planned, member⟩
  · rw [received] at before
    cases before
  · rw [received] at same
    cases same
    rw [serves.reconciler] at planned
    change Reconciler.planStream p.streamClass.target Cluster.api event u.cluster = _ at planned
    have reads := Reconciler.planStream_reads p.streamClass.target event u.cluster
    rw [planned] at reads
    obtain rfl : k'' = u.cluster := reads
    obtain ⟨rfl, -⟩ := Reconciler.planStream_ok planned
    refine (Definition.concerns_of_mem_react ?_ command member).target target
    exact fun job stored => (reachable.owned _ job stored).placed

/-- What a worker decides on is for the job under the name of the event's definition, or for the job of
the event. -/
theorem Decides.target (decides : u.Decides v command worker subject) (reachable : u.Reachable)
    (target : command.jobTarget? = some key) : key = subject.jobKey := by
  cases decides with
  | definition found running received taken stepped left =>
    subst stepped
    exact target_of_stepPipeline reachable found running received taken left target
  | @job ticket event now r k received taken stepped left =>
    subst stepped
    have follows := reachable.orderly.jobs
    rcases (Run.went_of_step taken).2.commands left with
      before | ⟨ticket', event', commands, k', same, planned, member⟩
    · rw [received] at before
      cases before
    · rw [received] at same
      cases same
      rw [follows.reconciler] at planned
      obtain ⟨owner, rfl⟩ := Reconciler.planJob_yields event _ _ _ planned
      exact (Job.concerns_of_mem_react command member).target target

theorem jobKey_eq_iff : a.jobKey = b.jobKey ↔ a.space = b.space ∧ a.name = b.name := by
  simp [StreamRef.jobKey]

theorem Touches.sameName (touches : Touches a b) : a.space = b.space ∧ a.name = b.name := by
  obtain ⟨reachable, decided, own, later, -, target, stored, foreign⟩ := touches
  have key := decided.target reachable target
  have belongs := ((reachable.reaches (.head decided.step later)).owned _ _ stored).owned _ foreign
  exact jobKey_eq_iff.1 (own.jobKey_eq.symm.trans (key.symm.trans belongs.symm))

theorem Swallows.sameName (swallows : Swallows a b) : a.space = b.space ∧ a.name = b.name := by
  obtain ⟨reachable, -, rfl, prepared, taken, foreign, -⟩ := swallows
  have belongs := (reachable.owned _ _ taken).owned _ foreign
  obtain ⟨name, -, -⟩ := Handler.prepareJob_yields _ _ _ _ prepared
  rw [name] at belongs
  exact jobKey_eq_iff.1 belongs.symm

/-! ## A pipeline for any type -/

/-- A fleet with one class, whose pipeline stands at a stage. -/
def manned (c : StreamClass) (stage : PipelineStage) (k : Cluster) : Fleet where
  supervisor := { Supervisor.create 1 1 0 1 with
    registry := ⟨1, Dictionary.empty.insert c.spec.kindRef c⟩
    nextSeq := 1
    pipelines := [(0, ⟨c, 0, false, stage⟩)]
    handles := [(c.id, ⟨c, c.metadata.generation, 0⟩)] }
  call := some (.attach c (.announcing .reading))
  cluster := k
  jobs := .ofJobs 1 1

variable {c : StreamClass} {k k' : Cluster} {run run' : Run Resource}

/-- Any class can be attached, whatever the cluster is. -/
theorem manned_reachable (c : StreamClass) (owned : k.Owned) :
    (manned c (.starting false) k).Reachable := by
  let base : Supervisor := .create 1 1 0 1
  let fleet (s : Supervisor) (call : Option Call) : Fleet := ⟨⟨s, call, k⟩, .ofJobs 1 1⟩
  let registered : Supervisor := { base with registry := ⟨1, Dictionary.empty.insert c.spec.kindRef c⟩ }
  have idle : Session.IsIdle (fleet base none).toSession := by
    intro call current
    cases current
  have begun : Step (fleet base none) (fleet base (some (.ofAttach c))) :=
    @Step.begin (fleet base none) _ idle trivial
  have claiming : Step (fleet base (some (.ofAttach c))) (fleet base (some (.attach c .claiming))) :=
    @Step.call (fleet base (some (.ofAttach c))) "" _ _ _ _ rfl rfl
  have registering : Step (fleet base (some (.attach c .claiming)))
      (fleet base (some (.attach c .registering))) :=
    @Step.call (fleet base (some (.attach c .claiming))) "" _ _ _ _ rfl rfl
  have spawning : Step (fleet base (some (.attach c .registering)))
      (fleet registered (some (.attach c .spawning))) :=
    @Step.call (fleet base (some (.attach c .registering))) "" _ _ _ _ rfl rfl
  have spawned : Step (fleet registered (some (.attach c .spawning)))
      (manned c (.starting false) k) :=
    @Step.call (fleet registered (some (.attach c .spawning))) "" _ _ _ _ rfl rfl
  refine ⟨fleet base none, ⟨⟨rfl, 1, 1, 0, 1, rfl⟩, ⟨1, 1, rfl⟩, owned⟩, ?_⟩
  exact .head begun (.head claiming (.head registering (.head spawning (.single spawned))))

/-- A step of the run of the pipeline. -/
theorem stepPipeline_manned (unended : run.result? = none)
    (taken : run.step ((manned c (.running run) k).supervisor.handler "") false k = some (run', k')) :
    (manned c (.running run) k).supervisor.stepPipeline "" 0 0 k =
      some ((manned c (.running run') k').supervisor, k') := by
  have found : (manned c (.running run) k).supervisor.pipeline? 0 =
      some ⟨c, 0, false, .running run⟩ := rfl
  have advanced : (manned c (.running run) k).supervisor.advance "" 0 ⟨c, 0, false, .running run⟩ k =
      some (.running run', (manned c (.running run) k).supervisor, k') := by
    have active : (manned c (.running run) k).supervisor.isCancelled ⟨c, 0, false, .running run⟩ = false :=
      rfl
    simp only [Supervisor.advance, unended, active, taken, Option.map_some]
  simp only [Supervisor.stepPipeline, found, Option.bind_some, advanced, Option.map_some]
  rfl

theorem Step.manned (unended : run.result? = none)
    (taken : run.step ((Fleet.manned c (.running run) k).supervisor.handler "") false k =
      some (run', k')) : Step (Fleet.manned c (.running run) k) (Fleet.manned c (.running run') k') :=
  .pipeline (stepPipeline_manned unended taken)

/-- A pipeline of any class can come to decide on any event, but one of a deletion, whatever jobs there
are. -/
theorem exists_decision (c : StreamClass) (event : Event Resource) (present : event.type ≠ .deleted)
    (owned : k.Owned) (works : k.failing = []) :
    ∃ (u : Fleet) (run : Run Resource) (k' : Cluster) (ticket : Nat), u.Reachable ∧
      run.stage = .executing ticket ((event.definition c.target).react event.type
        (Table.get? (event.definition c.target).jobKey k.jobs)) ∧
      k'.jobs = k.jobs ∧ u.Step (manned c (.running run) k') ∧
      ∀ command ∈ run.stage.commands, u.Decides (manned c (.running run) k') command (.pipeline 0)
        (.definition (event.definition c.target)) := by
  let fresh := Run.ofClass c 1
  let idle : Run Resource := { fresh with stage := .idle 0 }
  let received : Run Resource := { fresh with stage := .received 0 event }
  let buffer : Buffer Resource := .create c.target.plural c.bufferCapacity
  let watching (items : List (Except Failure (Event Resource))) (k : Cluster) : Cluster :=
    { k with resourceWatches := [⟨0, c.target.plural, { buffer with items := items }⟩] }
  have starting : Fleet.Reachable (manned c (.starting false) {}) := manned_reachable c (by
    intro key job found
    cases found)
  have subscribing : Step (manned c (.starting false) {}) (manned c (.running fresh) {}) :=
    @Step.pipeline (manned c (.starting false) {}) "" 0 0 _ _ rfl
  have subscribed : Step (manned c (.running fresh) {})
      (manned c (.running idle) { watching [] {} with tickets := 1 }) := .manned rfl rfl
  have changed : Step (manned c (.running idle) { watching [] {} with tickets := 1 })
      (manned c (.running idle) (watching [.ok event] k)) :=
    @Step.elsewhere (manned c (.running idle) { watching [] {} with tickets := 1 }) _
      (owned.of_jobs rfl)
  have took : Step (manned c (.running idle) (watching [.ok event] k))
      (manned c (.running received) (watching [] k)) := .manned rfl rfl
  have reachable : Fleet.Reachable (manned c (.running received) (watching [] k)) :=
    starting.reaches (.head subscribing (.head subscribed (.head changed (.single took))))
  have planned := Reconciler.planStream_of_works (c := c.target) (k := watching [] k) present (by
    show k.failing.contains "get_job" = false
    rw [works]
    rfl)
  obtain ⟨run, decided, stage⟩ := Run.step_of_received (r := received)
    (h := (manned c (.running received) (watching [] k)).supervisor.handler "") rfl
    (World.passes_empty _ _ _ _) planned
  have taken := stepPipeline_manned (c := c) rfl decided
  refine ⟨_, run, watching [] k, 0, reachable, stage, rfl, .pipeline taken, ?_⟩
  intro command member
  exact .definition rfl rfl rfl taken rfl ⟨_, run, rfl, rfl, member⟩

/-! ## Streams with the same name -/

/-- A class for the definitions of a type. -/
def classFor (c : Coordinates) : StreamClass where
  metadata := {}
  spec := { apiGroupRef := c.group, apiVersion := c.version, pluralName := c.plural, kindRef := c.kind }
  status := none

/-- A definition under a reference, with a state if it has one, and with the templates of `Orders`. -/
def plain (ref : StreamRef) (state : Option StreamState) : Definition where
  resource := { (Orders.definition "" state).resource with
    metadata := {
      name := some ref.name, space := some ref.space
      annotations := state.map fun state => Dictionary.ofList [(Key.state, state.text)] } }
  coordinates := ref.coordinates

/-- The operator can build a job for every definition, and this belongs to the definition. -/
theorem exists_job (ref : StreamRef) : ∃ job : Job, job.owner? = some ref ∧ job.Belongs ref.jobKey := by
  obtain ⟨job, built⟩ : ∃ job, Job.build ⟨{}, ⟨none, some { template := {} }⟩⟩ (plain ref none).view
      ref.coordinates false [] = .ok job := ⟨_, rfl⟩
  have owner : job.owner? = some ref := Job.owner?_build built
  obtain ⟨name, space, -⟩ := Job.build_ok built
  refine ⟨job, owner, ?_, ?_⟩
  · rw [Job.key, name, space]
    rfl
  · intro other own
    rw [owner] at own
    rw [Option.some.inj own]

theorem owned_singleton {job : Job} (belongs : job.Belongs key)
    (resources : Table ResourceKey Resource) :
    Cluster.Owned { jobs := [(key, job)], resources := resources } := by
  intro other job' found
  obtain ⟨rfl, rfl⟩ : other = key ∧ job' = job := by simpa using Table.mem_of_get? found
  exact belongs

/-- A suspended definition stops the job under its name, whoever owns it. -/
theorem exists_stop {job : Job} (belongs : job.Belongs a.jobKey) : ∃ u v : Fleet, u.Reachable ∧
    u.Decides v (.stop job) (.pipeline 0) (.definition (plain a (some .suspended))) ∧
    v.cluster.jobs = [(a.jobKey, job)] := by
  let d := plain a (some .suspended)
  obtain ⟨u, run, k', ticket, reachable, stage, jobs, -, decides⟩ :=
    exists_decision (classFor a.coordinates) ⟨.modified, d.resource⟩ nofun
      (owned_singleton belongs []) rfl
  have found : Table.get? d.jobKey [(a.jobKey, job)] = some job := if_pos rfl
  have decided : d.react .modified (Table.get? d.jobKey [(a.jobKey, job)]) = [.stop job] := by
    rw [found]
    rfl
  have member : Command.stop job ∈ run.stage.commands := by
    rw [stage]
    show Command.stop job ∈ d.react .modified (Table.get? d.jobKey [(a.jobKey, job)])
    rw [decided]
    exact List.mem_singleton.2 rfl
  exact ⟨u, _, reachable, decides _ member, jobs⟩

theorem touches_of_sameName (same : a.space = b.space ∧ a.name = b.name) : Touches a b := by
  obtain ⟨job, owner, belongs⟩ := exists_job b
  rw [← jobKey_eq_iff.2 same] at belongs
  obtain ⟨u, v, reachable, decided, jobs⟩ := exists_stop belongs
  refine .intro reachable decided (.definition rfl) .refl decided.left rfl ?_ owner
  show Table.get? job.key v.cluster.jobs = some job
  rw [jobs, belongs.placed]
  exact if_pos rfl

/-- A cluster with the template of a namespace. -/
def supplied (space : String) (jobs : Table JobKey Job) : Cluster where
  jobs := jobs
  resources := [(⟨StreamTemplate.coordinates.plural, space, "plain"⟩, Orders.template)]

/-- The template of `Orders` is one for jobs that have a specification. -/
theorem exists_template : ∃ template metadata spec,
    Orders.template.parse StreamTemplate.decode = .ok template ∧
      template.template = ⟨metadata, some spec⟩ := by
  have usable : ((Orders.template.parse StreamTemplate.decode).map fun t => t.template.spec.isSome) =
      .ok true := by
    decide +kernel
  cases parsed : Orders.template.parse StreamTemplate.decode with
  | error e =>
    rw [parsed] at usable
    cases usable
  | ok template =>
    rw [parsed] at usable
    obtain ⟨spec, found⟩ := Option.isSome_iff_exists.1 (Except.ok.inj usable)
    exact ⟨template, template.template.metadata, spec, rfl, by rw [← found]⟩

/-- The template is found for a plain definition of the namespace. -/
theorem findTemplate_supplied (s : Supervisor) (now : String) (ref : StreamRef)
    (jobs : Table JobKey Job) {template : StreamTemplate}
    (parsed : Orders.template.parse StreamTemplate.decode = .ok template) :
    (s.handler now).findTemplate (plain ref none) ⟨"plain", none⟩ (supplied ref.space jobs) =
      (.ok template, supplied ref.space jobs) := by
  have stored : (supplied ref.space jobs).resource? StreamTemplate.coordinates ref.space "plain" =
      some Orders.template := if_pos rfl
  have read : Cluster.getResource StreamTemplate.coordinates ref.space "plain" (supplied ref.space jobs) =
      (.ok (some Orders.template), supplied ref.space jobs) := by
    rw [Cluster.getResource_apply, stored]
    rfl
  unfold Handler.findTemplate
  refine (Act.bind_ok read).trans ?_
  simp only [parsed]
  rfl

/-- The job of a plain definition can be prepared where its template is stored. -/
theorem exists_prepared (ref : StreamRef) (jobs : Table JobKey Job) (stage : PipelineStage)
    (k : Cluster) : ∃ job : Job,
      ((manned (classFor ref.coordinates) stage k).supervisor.handler "").prepareJob (plain ref none)
        true (supplied ref.space jobs) = (.ok job, supplied ref.space jobs) := by
  have served : ((manned (classFor ref.coordinates) stage k).supervisor.handler "").classes
      (plain ref none).coordinates.kind = some (classFor ref.coordinates) :=
    Dictionary.get?_insert_self _ _ _
  have named : (plain ref none).view.templateRef? true = some ⟨"plain", none⟩ := by rfl
  obtain ⟨template, metadata, spec, parsed, templated⟩ := exists_template
  unfold Handler.prepareJob
  simp only [served, named]
  rw [Act.bind_ok (findTemplate_supplied _ _ ref jobs parsed), Job.build, templated]
  exact ⟨_, rfl⟩

/-- When a job is to be started for a definition, a job of another kind can have come to its name. -/
theorem swallows_of_sameName (same : a.space = b.space ∧ a.name = b.name) : Swallows a b := by
  obtain ⟨other, owner, belongs⟩ := exists_job b
  rw [← jobKey_eq_iff.2 same] at belongs
  let d := plain a none
  obtain ⟨u, run, k, ticket, reachable, stage, -, step, -⟩ :=
    exists_decision (k := {}) (classFor a.coordinates) ⟨.added, d.resource⟩ nofun (by
      intro key job found
      cases found) rfl
  let later : Fleet := manned (classFor a.coordinates) (.running run) (supplied a.space [(a.jobKey, other)])
  have changed : Step (manned (classFor a.coordinates) (.running run) k) later :=
    @Step.elsewhere (manned (classFor a.coordinates) (.running run) k) _ (owned_singleton belongs _)
  obtain ⟨job, prepared⟩ := exists_prepared a [(a.jobKey, other)] (.running run)
    (supplied a.space [(a.jobKey, other)])
  have key : (⟨d.space, job.name⟩ : JobKey) = a.jobKey := by
    obtain ⟨name, -, -⟩ := Handler.prepareJob_yields _ _ _ _ prepared
    rw [name]
    rfl
  have taken : later.cluster.job? d.space job.name = some other := by
    rw [Cluster.job?, key]
    exact if_pos rfl
  have next : later.Next (.startJob d true) (.pipeline 0) := .pipeline rfl rfl stage
  exact .intro (reachable.reaches (.head step (.single changed))) next rfl prepared taken owner
    (Handler.startJob_of_taken rfl prepared rfl (by rw [taken]; rfl))

/-- Whatever the kinds of two streams are: a command for one of them reaches the job of the other, and
a start of one of them is swallowed by the job of the other, if and only if both have the same namespace
and name. Streams with different references that do not share these leave each other's jobs alone. -/
theorem streams_meet_iff (a b : StreamRef) :
    (Touches a b ↔ a.space = b.space ∧ a.name = b.name) ∧
    (Swallows a b ↔ a.space = b.space ∧ a.name = b.name) :=
  ⟨⟨Touches.sameName, touches_of_sameName⟩, ⟨Swallows.sameName, swallows_of_sameName⟩⟩

/-! ## Two kinds with orders -/

/-- The stream in `Orders`. -/
def orders : StreamRef := ⟨Orders.kind, "streams", "orders"⟩

/-- A stream of another kind with the same namespace and name. -/
def otherOrders : StreamRef :=
  ⟨⟨"streaming.example.org", "v1", "table-streams", "TableStream"⟩, "streams", "orders"⟩

/-- A suspended stream stops the job of a stream of another kind. -/
theorem suspended_stream_stops_foreign_job : otherOrders ≠ orders ∧
    (Orders.job "2" none []).owner? = some orders ∧ ∃ u v : Fleet, u.Reachable ∧
      u.Decides v (.stopJob "streams" "orders") (.pipeline 0)
        (.definition (plain otherOrders (some .suspended))) ∧
      v.cluster.job? "streams" "orders" = some (Orders.job "2" none []) := by
  have owner : (Orders.job "2" none []).owner? = some orders := by decide +kernel
  have belongs : (Orders.job "2" none []).Belongs otherOrders.jobKey := by
    refine ⟨by decide +kernel, fun ref own => ?_⟩
    rw [owner] at own
    rw [← Option.some.inj own]
    rfl
  obtain ⟨u, v, reachable, decided, jobs⟩ := exists_stop belongs
  refine ⟨by decide, owner, u, v, reachable, decided, ?_⟩
  rw [Cluster.job?, jobs]
  rfl

end Fleet

end StreamOperator
