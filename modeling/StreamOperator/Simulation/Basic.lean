import StreamOperator.Operator

/-!
# The operator on a clock of its own

A cluster in memory, supervisors and tasks advance together on one thread, step by step. This module
holds the state of all of them, and the steps of those who can run.
-/

set_option autoImplicit false

namespace StreamOperator

/-- What a task does. -/
inductive Work where
  | stream (run : Run Resource)
  | jobs (run : Run Job)
  | watch (supervisor : Nat) (w : ClassWatch)
  | operator (supervisor : Nat) (o : Operator)

namespace Work

/-- The result, once there is one. -/
def result? : Work → Option (Except Failure Unit)
  | stream run => run.result?
  | jobs run => run.result?
  | watch _ w => w.result?
  | operator _ o => o.result?

end Work

structure Task where
  cancelled : Bool := false
  work : Work

/-- What can run: a pipeline of a supervisor, or a task. -/
inductive Runner where
  | pipeline (supervisor seq : Nat)
  | task (index : Nat)
  deriving DecidableEq, Repr

structure Simulation where
  cluster : Cluster := {}
  /-- The supervisors; the first one's registry serves the tasks and commands that belong to none. -/
  supervisors : List Supervisor
  /-- The supervisor that calls go to. -/
  current : Nat := 0
  tasks : List Task := []
  /-- The tasks that can be asked for by a name. -/
  names : Table String Nat := []
  /-- Milliseconds since the beginning. -/
  clock : Nat := 0
  /-- The runners that can go on, in the order of their turns. -/
  queue : List Runner := []
  /-- The runners that used up their allowance, the latest first. -/
  deferred : List Runner := []
  /-- The times that runners wait for, in the order in which they began to wait. -/
  timers : List (Nat × Runner) := []
  /-- What is left of the caller's allowance. -/
  allowance : Nat := Toll.perTurn
  /-- The text of the present moment. -/
  now : String

namespace Simulation

def supervisor (w : Simulation) (index : Nat) : Supervisor :=
  w.supervisors.getD index (Supervisor.create 0 0 0 0)

def setSupervisor (w : Simulation) (index : Nat) (s : Supervisor) : Simulation :=
  { w with supervisors := w.supervisors.set index s }

/-- The handler of tasks and commands that belong to no supervisor. -/
def handler (w : Simulation) : Handler Cluster := (w.supervisor 0).handler w.now

/-- The pipeline of a supervisor. -/
def pipeline? (w : Simulation) (index seq : Nat) : Option Pipeline :=
  (w.supervisor index).pipeline? seq

/-- Every runner there is. -/
def runners (w : Simulation) : List Runner :=
  (w.supervisors.zipIdx.flatMap fun (s, index) =>
      s.pipelines.map fun (seq, _) => Runner.pipeline index seq)
    ++ (List.range w.tasks.length).map Runner.task

/-! ## Steps -/

/-- The tolls of what a task does next. -/
def workTolls (w : Simulation) (cancelled : Bool) : Work → List Toll
  | .stream run => [run.toll cancelled w.cluster]
  | .jobs run => [run.toll cancelled w.cluster]
  | .watch index watch => [watch.toll (w.supervisor index).stopped w.cluster]
  | .operator index o => o.tolls (w.supervisor index) w.clock w.cluster

/-- One step of a task's work. -/
def stepWork (w : Simulation) (cancelled : Bool) (allowance : Nat) :
    Work → Option ((Work × Simulation) × Nat)
  | .stream run =>
    (run.toll cancelled w.cluster).pay allowance <|
      (run.step w.handler cancelled w.cluster).map fun (run, k) =>
        (.stream run, { w with cluster := k })
  | .jobs run =>
    (run.toll cancelled w.cluster).pay allowance <|
      (run.step w.handler cancelled w.cluster).map fun (run, k) =>
        (.jobs run, { w with cluster := k })
  | .watch index watch =>
    let s := w.supervisor index
    (watch.toll s.stopped w.cluster).pay allowance <|
      (s.stepWatch w.now watch w.cluster).map fun (watch, s, k) =>
        (.watch index watch, { w.setSupervisor index s with cluster := k })
  | .operator index o =>
    (o.step (w.supervisor index) w.now w.clock allowance w.cluster).map fun ((o, s, k), left) =>
      ((.operator index o, { w.setSupervisor index s with cluster := k }), left)

/-- The tolls of what a runner does next. -/
def tolls (w : Simulation) : Runner → List Toll
  | .pipeline index seq =>
    match w.pipeline? index seq with
    | some p => [p.toll ((w.supervisor index).isCancelled p) w.clock w.cluster]
    | none => []
  | .task index =>
    match w.tasks[index]? with
    | some task => w.workTolls task.cancelled task.work
    | none => []

/-- One step of a runner within an allowance, and what is left of it; none when it has to wait or is
done, or when the allowance does not cover the step. -/
def stepRunner (w : Simulation) (r : Runner) (allowance : Nat) : Option (Simulation × Nat) :=
  match r with
  | .pipeline index seq =>
    (w.pipeline? index seq).bind fun p =>
      let s := w.supervisor index
      (p.toll (s.isCancelled p) w.clock w.cluster).pay allowance <|
        (s.stepPipeline w.now w.clock seq w.cluster).map fun (s, k) =>
          { w.setSupervisor index s with cluster := k }
  | .task index =>
    (w.tasks[index]?).bind fun task =>
      (w.stepWork task.cancelled allowance task.work).map fun ((work, w), left) =>
        ({ w with tasks := w.tasks.set index { task with work := work } }, left)

/-- The runner has something to do. -/
def canStep (w : Simulation) (r : Runner) : Bool := (w.stepRunner r Toll.perTurn).isSome

/-- The runner goes on later, although it may have something to do: its allowance is used up. -/
def isStarved (w : Simulation) (r : Runner) (allowance : Nat) : Bool :=
  (w.tolls r).any fun toll => !toll.isCovered allowance

/-! ## What a runner waits for -/

/-- The ticket of the subscription a runner reads. -/
def ticket? (w : Simulation) : Runner → Option Nat
  | .pipeline index seq => (w.pipeline? index seq).bind Pipeline.ticket?
  | .task index =>
    (w.tasks[index]?).bind fun task =>
      match task.work with
      | .stream run => run.ticket?
      | .jobs run => run.ticket?
      | .watch _ watch => watch.ticket?
      | .operator index o => o.ticket? (w.supervisor index) w.now w.clock w.cluster

/-- The times a runner waits for. -/
def dues (w : Simulation) : Runner → List Nat
  | .pipeline index seq => ((w.pipeline? index seq).bind Pipeline.due?).toList
  | .task index =>
    match (w.tasks[index]?).map Task.work with
    | some (.operator _ o) => o.dues
    | _ => []

end Simulation

end StreamOperator
