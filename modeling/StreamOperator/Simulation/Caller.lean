import StreamOperator.Simulation.Turn

/-!
# The caller

The caller of a simulation makes calls to its current supervisor, carries out commands, delivers
events, and starts and stops tasks. Nobody else runs meanwhile, unless the caller has to wait or its
own allowance is used up; then it goes on after a round of turns.
-/

set_option autoImplicit false

namespace StreamOperator.Simulation

/-- The caller gives way to the others; its next turn begins after the round. -/
def giveWay (w : Simulation) : Simulation := { w.round with allowance := Toll.perTurn }

/-- The caller pays a toll; it gives way first if its allowance does not cover it. -/
def charge (w : Simulation) (toll : Toll) : Simulation :=
  let w := if toll.isCovered w.allowance then w else w.giveWay
  { w with allowance := w.allowance - toll.cost }

/-- The caller waits for milliseconds to pass; its next turn begins when they have. -/
def advance (w : Simulation) (ms : Nat) : Simulation :=
  if ms = 0 then w.charge .single
  else { elapse (w.clock + ms) stepLimit w with allowance := Toll.perTurn - Toll.single.cost }

/-- Everything that can run runs, and a millisecond passes. -/
def settle (w : Simulation) : Simulation := w.advance 1

/-! ## Calls -/

/-- Runs a call to a supervisor to its end. -/
def finishCall (index : Nat) : Nat → Call → Simulation → Except Failure Unit × Simulation
  | 0, _, w => (.ok (), w)
  | fuel + 1, call, w =>
    match call.result? with
    | some result => (result, w)
    | none =>
      match
        call.toll.pay w.allowance ((w.supervisor index).stepCall w.now call w.cluster) with
      | some ((call, s, k), left) =>
        let w : Simulation := { w.setSupervisor index s with cluster := k, allowance := left }
        finishCall index fuel call (w.wake none)
      | none => finishCall index fuel call w.giveWay

/-- Makes a call to the current supervisor. -/
def perform (w : Simulation) (call : Call) : Except Failure Unit × Simulation :=
  finishCall w.current stepLimit call w

/-- Carries out an operation on the cluster. -/
def act {α : Type} (w : Simulation) (operation : Act Cluster α) : Except Failure α × Simulation :=
  let (result, k) := operation w.cluster
  (result, { w with cluster := k })

/-- Carries out commands in order, up to the first failure. -/
def carryOut (w : Simulation) : List Command → Except Failure Unit × Simulation
  | [] => (.ok (), w)
  | c :: rest =>
    let w := w.charge c.toll
    match w.act (w.handler.handle c) with
    | (.ok (), w) => w.carryOut rest
    | (.error e, w) => (.error e, w)

/-! ## The registry of the first supervisor -/

/-- The registry, once the caller has its lock. -/
def registry (w : Simulation) : ClassRegistry × Simulation :=
  let w := w.charge .single
  ((w.supervisor 0).registry, w)

def setRegistry (w : Simulation) (r : ClassRegistry) : Simulation :=
  w.setSupervisor 0 { w.supervisor 0 with registry := r }

/-! ## Events -/

/-- Delivers an event to every live watch on a type. -/
def emitResource (w : Simulation) (plural : String) (event : Event Resource) :
    List (Except Failure Unit) × Simulation :=
  let (answers, k) := w.cluster.emitResource plural event
  (answers, { w with cluster := k }.wake none)

/-- Delivers an event to every live watch on jobs. -/
def emitJob (w : Simulation) (event : Event Job) : List (Except Failure Unit) × Simulation :=
  let (answers, k) := w.cluster.emitJob event
  (answers, { w with cluster := k }.wake none)

/-! ## Tasks -/

/-- Starts a task under a name; another one of that name can no longer be asked for. -/
def start (w : Simulation) (name : String) (work : Work) : Simulation :=
  let w : Simulation :=
    { w with
      tasks := w.tasks ++ [{ work := work }]
      names := Table.set name w.tasks.length w.names }
  w.wake none

/-- Starts an operator, with a supervisor of its own that calls go to from now on. -/
def startOperator (w : Simulation) (name : String) (c : Config) : Simulation :=
  let index := w.supervisors.length
  let w : Simulation :=
    { w with supervisors := w.supervisors ++ [Operator.supervisorOf c], current := index }
  w.start name (.operator index (Operator.create c))

/-- The task of a name. -/
def find? (w : Simulation) (name : String) : Option (Nat × Task) :=
  (Table.get? name w.names).bind fun index => (w.tasks[index]?).map fun task => (index, task)

/-- Tells a supervisor to stop, with all of its pipelines. -/
def cancelSupervisor (w : Simulation) (index : Nat) : Simulation :=
  (w.setSupervisor index (w.supervisor index).cancelAll).wake none

/-- Tells a task to stop; a supervisor or operator stops with all of its pipelines. -/
def cancel (w : Simulation) (index : Nat) (task : Task) : Simulation :=
  match task.work with
  | .watch supervisor _ | .operator supervisor _ => w.cancelSupervisor supervisor
  | _ => { w with tasks := w.tasks.set index { task with cancelled := true } }.wake none

/-- The result of a task that is over was asked for; its name is free again. -/
def forget (w : Simulation) (name : String) : Simulation :=
  { w.charge .single with names := Table.erase name w.names }

end StreamOperator.Simulation
