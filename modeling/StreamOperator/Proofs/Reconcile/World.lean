import Mathlib.Data.List.Dedup
import StreamOperator.Proofs.Handler.Effects
import StreamOperator.Reconcile.Run

/-!
# Two reconcilers over one cluster

A world holds a cluster, the reconciler of the definitions of one type and the reconciler of jobs. Each
has a queue of events and takes them in order. A move is a step of `Run.step` by one of them, or a
change of the cluster by somebody else. Whatever a move changes in the cluster is reported at the end
of both queues.

Besides, a world counts the jobs that were created and deleted under each name and keeps what the
commands under way were decided on. No move depends on that.
-/

set_option autoImplicit false

namespace StreamOperator

/-! ## Reports of changes -/

/-- What a watch reports of an entry that was one thing and now is another. What is gone is reported in
a version of its own. -/
def Event.ofChange {α : Type} [DecidableEq α] (last : α → α) : Option α → Option α → Option (Event α)
  | none, none => none
  | none, some new => some ⟨.added, new⟩
  | some old, none => some ⟨.deleted, last old⟩
  | some old, some new => if old = new then none else some ⟨.modified, new⟩

@[simp] theorem Event.ofChange_self {α : Type} [DecidableEq α] (last : α → α) (entry : Option α) :
    Event.ofChange last entry entry = none := by
  cases entry with
  | none => rfl
  | some value => exact if_pos rfl

/-- The reports of all entries in which two tables differ. -/
def Table.changes {κ β : Type} [DecidableEq κ] [DecidableEq β] (last : β → β) (old new : Table κ β) :
    List (κ × Event β) :=
  ((old ++ new).map Prod.fst).dedup.filterMap fun key =>
    (Event.ofChange last (Table.get? key old) (Table.get? key new)).map fun event => (key, event)

theorem Table.mem_changes {κ β : Type} [DecidableEq κ] [DecidableEq β] {last : β → β}
    {old new : Table κ β} {key : κ} {event : Event β} : (key, event) ∈ Table.changes last old new ↔
      Event.ofChange last (Table.get? key old) (Table.get? key new) = some event := by
  unfold Table.changes
  rw [List.mem_filterMap]
  constructor
  · rintro ⟨other, -, reported⟩
    obtain ⟨event', changed, same⟩ := Option.map_eq_some_iff.1 reported
    obtain ⟨rfl, rfl⟩ := Prod.mk.inj same
    exact changed
  · intro changed
    refine ⟨key, ?_, by rw [changed]; rfl⟩
    rw [List.mem_dedup, List.mem_map]
    cases before : Table.get? key old with
    | some value => exact ⟨_, List.mem_append_left _ (Table.mem_of_get? before), rfl⟩
    | none =>
      cases after : Table.get? key new with
      | some value => exact ⟨_, List.mem_append_right _ (Table.mem_of_get? after), rfl⟩
      | none =>
        rw [before, after] at changed
        cases changed

/-- Nothing is reported of a table that looks the same. -/
theorem Table.changes_eq_nil {κ β : Type} [DecidableEq κ] [DecidableEq β] {last : β → β}
    {old new : Table κ β} (same : ∀ key, Table.get? key new = Table.get? key old) :
    Table.changes last old new = [] := by
  refine List.eq_nil_iff_forall_not_mem.2 ?_
  rintro ⟨key, event⟩ reported
  have changed := Table.mem_changes.1 reported
  rw [same, Event.ofChange_self] at changed
  cases changed

/-! ## Worlds -/

/-- The definition an event is about. -/
def Event.definition (event : Event Resource) (c : Coordinates) : Definition := ⟨event.resource, c⟩

inductive Actor where
  | streams
  | jobs
  deriving DecidableEq, Repr

/-- A job as it was seen once, with its number among the jobs of its name. -/
structure Sighting where
  job : Job
  incarnation : Nat
  deriving DecidableEq

/-- What a reconciler finds when it goes on. -/
structure Setting where
  now : String
  /-- The class that serves a kind. -/
  classes : String → Option StreamClass
  /-- The version in which the watch reports what goes. -/
  deletion : String

def Setting.handler (setting : Setting) : Handler Cluster :=
  ⟨Cluster.api, setting.classes, setting.now⟩

structure World where
  /-- The type of the definitions. -/
  kind : Coordinates
  cluster : Cluster
  streamStage : RunStage Resource
  streamDedup : Deduplicator
  definitionEvents : List (Event Resource) := []
  jobStage : RunStage Job
  jobDedup : Deduplicator
  /-- The events of jobs, with the number of the job that is concerned. -/
  jobEvents : List (Event Job × Nat) := []
  /-- How many jobs were created under a name. -/
  created : JobKey → Nat
  deleted : JobKey → Nat
  /-- The event and the job that the stream reconciler decided on last. -/
  streamBasis : Option (Event Resource × Option Sighting) := none
  /-- The event that the job reconciler took last. -/
  jobBasis : Option (Event Job × Nat) := none

/-- What can happen in a world. -/
inductive Move where
  /-- A reconciler takes the next event of its queue. -/
  | take (actor : Actor)
  /-- A reconciler decides on its event, or carries out its next command. -/
  | work (actor : Actor) (setting : Setting)
  /-- Somebody else changes the cluster. -/
  | others (k : Cluster) (deletion : String)
  /-- A watch lists a definition anew. -/
  | listDefinition (key : ResourceKey)
  | listJob (key : JobKey)

/-- The move is one of the reconcilers. -/
def Move.isOwn : Move → Bool
  | take _ | work _ _ => true
  | _ => false

namespace RunStage

variable {α : Type}

/-- There is an event to decide on, or there are commands to carry out. -/
def isBusy : RunStage α → Bool
  | received _ _ | executing _ _ => true
  | _ => false

/-- The commands that are left to carry out. -/
def commands : RunStage α → List Command
  | executing _ commands => commands
  | _ => []

end RunStage

namespace World

def streamRun (w : World) : Run Resource where
  reconciler := Reconciler.stream w.kind
  feed := Feed.resources w.kind
  capacity := 1
  dedup := w.streamDedup
  stage := w.streamStage

def jobRun (w : World) : Run Job := { Run.ofJobs 1 1 with dedup := w.jobDedup, stage := w.jobStage }

/-- The job under a name, as it is seen now. -/
def sight (w : World) (key : JobKey) : Option Sighting :=
  (Table.get? key w.cluster.jobs).map fun job => ⟨job, w.created key⟩

/-- The cluster has become another one, and the changes are reported. -/
def become (w : World) (k : Cluster) (deletion : String) : World :=
  let before (key : JobKey) : Bool := Table.contains key w.cluster.jobs
  let after (key : JobKey) : Bool := Table.contains key k.jobs
  let created (key : JobKey) : Nat := w.created key + (!before key && after key).toNat
  { w with
    cluster := k
    created := created
    deleted := fun key => w.deleted key + (before key && !after key).toNat
    definitionEvents := w.definitionEvents
      ++ ((Table.changes (Cluster.versioned · deletion) w.cluster.resources k.resources).filter
        fun change => change.1.plural = w.kind.plural).map Prod.snd
    jobEvents := w.jobEvents
      ++ (Table.changes (Cluster.versionedJob · deletion) w.cluster.jobs k.jobs).map
        fun change => (change.2, created change.1) }

/-- No event is reported to the job reconciler when no job has changed. -/
theorem jobEvents_become {w : World} {k : Cluster} {deletion : String}
    (same : k.jobs = w.cluster.jobs) : (w.become k deletion).jobEvents = w.jobEvents := by
  simp only [become, same]
  rw [Table.changes_eq_nil fun _ => rfl, List.map_nil, List.append_nil]

/-- What the stream reconciler hears of a change. -/
theorem mem_definitionEvents_become {w : World} {k : Cluster} {deletion : String}
    {event : Event Resource} (member : event ∈ (w.become k deletion).definitionEvents) :
    event ∈ w.definitionEvents ∨ ∃ key,
      (key, event) ∈ Table.changes (Cluster.versioned · deletion) w.cluster.resources k.resources := by
  rcases List.mem_append.1 member with old | new
  · exact .inl old
  · obtain ⟨⟨key, event'⟩, reported, rfl⟩ := List.mem_map.1 new
    exact .inr ⟨key, List.mem_of_mem_filter reported⟩

/-- Every change of a definition is reported to the stream reconciler. -/
theorem definitionEvents_become_of_mem {w : World} {k : Cluster} {deletion : String}
    {event : Event Resource} {key : ResourceKey} (own : key.plural = w.kind.plural)
    (reported : (key, event) ∈
      Table.changes (Cluster.versioned · deletion) w.cluster.resources k.resources) :
    event ∈ (w.become k deletion).definitionEvents := by
  refine List.mem_append_right _ (List.mem_map.2 ⟨(key, event), ?_, rfl⟩)
  exact List.mem_filter.2 ⟨reported, decide_eq_true own⟩

/-- What the stream reconciler decides on, if it is about to decide. -/
def nextBasis (w : World) : Option (Event Resource × Option Sighting) :=
  match w.streamStage with
  | .received _ event => some (event, w.sight (event.definition w.kind).jobKey)
  | _ => w.streamBasis

/-- One move; none when it is not possible. -/
def step (w : World) : Move → Option World
  | .take .streams =>
    match w.streamStage, w.definitionEvents with
    | .idle ticket, event :: rest =>
      some { w with streamStage := .received ticket event, definitionEvents := rest }
    | _, _ => none
  | .take .jobs =>
    match w.jobStage, w.jobEvents with
    | .idle ticket, (event, incarnation) :: rest =>
      some { w with
        jobStage := .received ticket event
        jobEvents := rest
        jobBasis := some (event, incarnation) }
    | _, _ => none
  | .work .streams setting =>
    if w.streamStage.isBusy then
      (w.streamRun.step setting.handler false w.cluster).map fun (r, k) =>
        { w with
          streamStage := r.stage
          streamDedup := r.dedup
          streamBasis := w.nextBasis }.become k setting.deletion
    else none
  | .work .jobs setting =>
    if w.jobStage.isBusy then
      (w.jobRun.step setting.handler false w.cluster).map fun (r, k) =>
        { w with jobStage := r.stage, jobDedup := r.dedup }.become k setting.deletion
    else none
  | .others k deletion =>
    -- Jobs stay under their own names.
    if ∀ entry ∈ k.jobs, entry.2.key = entry.1 then some (w.become k deletion) else none
  | .listDefinition key =>
    if key.plural = w.kind.plural then
      (Table.get? key w.cluster.resources).map fun r =>
        { w with definitionEvents := w.definitionEvents ++ [⟨.added, r⟩] }
    else none
  | .listJob key =>
    (w.sight key).map fun seen =>
      { w with jobEvents := w.jobEvents ++ [(⟨.added, seen.job⟩, seen.incarnation)] }

/-- The world after some moves; none when one of them is not possible. -/
def run (w : World) : List Move → Option World
  | [] => some w
  | move :: rest => (w.step move).bind fun v => v.run rest

/-- What holds at first and is kept by every move of a kind holds after any moves of that kind. -/
theorem run_preserves {P : World → Prop} {Q : Move → Prop} {w v : World} {moves : List Move}
    (step : ∀ {w v move}, Q move → P w → w.step move = some v → P v)
    (kind : ∀ move ∈ moves, Q move) (first : P w) (ran : w.run moves = some v) : P v := by
  induction moves generalizing w with
  | nil =>
    obtain rfl := Option.some.inj ran
    exact first
  | cons move rest ih =>
    obtain ⟨u, moved, ran⟩ := Option.bind_eq_some_iff.1 ran
    have next : P u := step (kind move List.mem_cons_self) first moved
    exact ih (fun m member => kind m (List.mem_cons_of_mem _ member)) next ran

/-- Nothing has happened yet: the reconcilers wait for events, of which there are none, and every job
that is there is the first one of its name. -/
structure Initial (w : World) : Prop where
  streamIdle : ∃ ticket, w.streamStage = .idle ticket
  jobIdle : ∃ ticket, w.jobStage = .idle ticket
  noDefinitionEvents : w.definitionEvents = []
  noJobEvents : w.jobEvents = []
  placed : ∀ entry ∈ w.cluster.jobs, entry.2.key = entry.1
  created : ∀ key, w.created key = (Table.contains key w.cluster.jobs).toNat
  deleted : ∀ key, w.deleted key = 0
  streamBasis : w.streamBasis = none
  jobBasis : w.jobBasis = none

/-- The commands that a reconciler has yet to carry out. -/
def commands (w : World) : Actor → List Command
  | .streams => w.streamStage.commands
  | .jobs => w.jobStage.commands

theorem mem_commands {w : World} {actor : Actor} {command : Command} {rest : List Command}
    (current : w.commands actor = command :: rest) : command ∈ w.commands actor := by
  rw [current]
  exact List.mem_cons_self

end World

/-! ## A world with one stream

The definition `orders` and its job, with the template that both kinds of jobs are made from. Worlds
like this one show that what is said of all worlds is not said of none.
-/

namespace Orders

def kind : Coordinates := ⟨"streaming.example.org", "v1", "order-streams", "OrderStream"⟩

def key : JobKey := ⟨"streams", "orders"⟩

/-- The key of the definition. -/
def definitionKey : ResourceKey := ⟨kind.plural, "streams", "orders"⟩

def streamClass : StreamClass where
  metadata := { name := some "orders", space := some "streams" }
  spec := { apiGroupRef := kind.group, pluralName := kind.plural, kindRef := kind.kind }
  status := none

def setting (deletion : String) : Setting where
  now := "2024-01-01T00:00:00Z"
  classes := fun _ => some streamClass
  deletion := deletion

/-- A reconciler goes on and deletes nothing. -/
def work (actor : Actor) : Move := .work actor (setting "")

def template : Resource where
  types := none
  metadata := { name := some "plain", space := some "streams" }
  data := Dictionary.ofList [("spec", .obj [("template", .obj [("spec", .obj [])])])]

/-- The definition in a version, with the state it has then. -/
def definition (version : String) (state : Option StreamState) : Definition where
  resource := {
    types := none
    metadata := {
      name := some "orders", space := some "streams", resourceVersion := some version
      annotations := state.map fun state => Dictionary.ofList [(Key.state, state.text)] }
    data := Dictionary.ofList [("spec", .obj [
      ("backfillJobTemplateRef", .obj [("name", .str "plain")]),
      ("jobTemplateRef", .obj [("name", .str "plain")])])] }
  coordinates := kind

/-- The job in a version, with the state and the conditions it has then. -/
def job (version : String) (state : Option StreamState) (conditions : List (String × String)) :
    Job where
  metadata := {
    name := some "orders", space := some "streams", resourceVersion := some version
    labels := some (Dictionary.ofList [(Key.streamId, "orders"), (Key.streamKind, kind.kind)])
    annotations := some (Dictionary.ofList (
      [(Key.apiGroup, kind.group), (Key.apiVersion, kind.version), (Key.apiPlural, kind.plural)]
        ++ (state.map fun state => (Key.state, state.text)).toList)) }
  status := some { conditions := some (conditions.map fun c => { type := c.1, status := c.2 }) }

/-- The cluster with the definition and its jobs. -/
def cluster (d : Definition) (jobs : List Job) : Cluster where
  resources := [(⟨"streamingjobtemplates", "streams", "plain"⟩, template), (definitionKey, d.resource)]
  jobs := jobs.map fun job => (key, job)
  version := 10

/-- The reconcilers have just started. -/
def start (d : Definition) (jobs : List Job) : World where
  kind := kind
  cluster := cluster d jobs
  streamStage := .idle 0
  streamDedup := .empty 8
  jobStage := .idle 1
  jobDedup := .empty 8
  created := fun key => (Table.contains key (cluster d jobs).jobs).toNat
  deleted := fun _ => 0

theorem start_initial (d : Definition) {jobs : List Job} (placed : ∀ job ∈ jobs, job.key = key) :
    (start d jobs).Initial where
  streamIdle := ⟨0, rfl⟩
  jobIdle := ⟨1, rfl⟩
  noDefinitionEvents := rfl
  noJobEvents := rfl
  placed entry member := by
    obtain ⟨job, listed, rfl⟩ := List.mem_map.1 member
    exact placed job listed
  created _ := rfl
  deleted _ := rfl
  streamBasis := rfl
  jobBasis := rfl

/-- The stream has its job, and nothing has happened yet. -/
def atRest : World := start (definition "1" none) [job "2" none []]

theorem atRest_initial : atRest.Initial := start_initial _ (by decide)

end Orders

end StreamOperator
