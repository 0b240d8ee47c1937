import StreamOperator.Simulation.Basic

/-!
# Turns

Runners that can go on queue up in the order in which they became able to; those that one event
wakes queue in the order of their subscriptions. A runner keeps its turn until it has to wait or its
allowance is used up; then it is put off until the queue is empty or the round is over. The clock
stands still while anything can run.
-/

set_option autoImplicit false

namespace StreamOperator.Simulation

/-! ## The queue -/

/-- Runners with lower tickets come first, those without one last. -/
def comesBefore (w : Simulation) (a b : Runner) : Bool :=
  match w.ticket? a, w.ticket? b with
  | some x, some y => x ≤ y
  | some _, none => true
  | none, some _ => false
  | none, none => true

/-- Queues the runners that can go on, apart from one that is running. -/
def wake (w : Simulation) (running : Option Runner) : Simulation :=
  let woken := w.runners.filter fun r =>
    running != some r && !w.queue.contains r && !w.deferred.contains r && w.canStep r
  { w with queue := w.queue ++ woken.mergeSort w.comesBefore }

/-- Runs a runner until it has to wait or is put off. -/
def runOut : Nat → Runner → Nat → Simulation → Simulation
  | 0, _, _, w => w
  | fuel + 1, r, allowance, w =>
    match w.stepRunner r allowance with
    | some (w, left) => runOut fuel r left (w.wake (some r))
    | none => if w.isStarved r allowance then { w with deferred := r :: w.deferred } else w

/-- More steps than any run between two waits takes. -/
def stepLimit : Nat := 100000

/-- Notes the times that a runner waits for now. -/
def noteTimers (w : Simulation) (r : Runner) : Simulation :=
  let dues := w.dues r
  let kept := w.timers.filter fun (due, q) => q != r || dues.contains due
  let added := (dues.filter fun due => !w.timers.contains (due, r)).map fun due => (due, r)
  { w with timers := kept ++ added }

/-- An operator's loops take turns at coming first. -/
def endTurn (w : Simulation) : Runner → Simulation
  | .pipeline _ _ => w
  | .task index =>
    match w.tasks[index]? with
    | some task =>
      match task.work with
      | .operator s o =>
        { w with tasks := w.tasks.set index { task with work := .operator s o.endTurn } }
      | _ => w
    | none => w

/-- The turn of a runner. -/
def turn (w : Simulation) (r : Runner) : Simulation :=
  ((runOut stepLimit r Toll.perTurn w).endTurn r).noteTimers r

/-- Gives turns to the runners in the queue, up to a number of turns. -/
def serve : Nat → Simulation → Simulation
  | 0, w => w
  | n + 1, w =>
    match w.queue with
    | [] => w
    | r :: rest => serve n ({ w with queue := rest }.turn r)

/-- The number of turns in a round. -/
def roundLength : Nat := 61

/-- A round of turns. After it, those that were put off are queued again, the latest first. -/
def round (w : Simulation) : Simulation :=
  let w := serve roundLength w
  { w with queue := w.queue ++ w.deferred, deferred := [] }

/-- Runs rounds until nothing can run. -/
def drain : Nat → Simulation → Simulation
  | 0, w => w
  | fuel + 1, w => if w.queue.isEmpty then w else drain fuel w.round

/-- Runs until nothing can run at the present time. -/
def runUntilIdle (w : Simulation) : Simulation := drain stepLimit w

/-! ## Time -/

/-- The clock reaches a time: whoever waited for it is queued. -/
def strike (w : Simulation) (time : Nat) : Simulation :=
  let (fallen, timers) := w.timers.partition fun (due, _) => due ≤ time
  let woken := (fallen.map Prod.snd).filter fun r => !w.queue.contains r && !w.deferred.contains r
  { w with clock := time, timers := timers, queue := w.queue ++ woken.eraseDups }

/-- The next time before a limit that something waits for. -/
def nextDue (w : Simulation) (limit : Nat) : Option Nat :=
  ((w.timers.map Prod.fst).filter fun due => due < limit).min?

/-- Lets the clock run to a time. What falls due at that time is queued, but has no turn yet. -/
def elapse (target : Nat) : Nat → Simulation → Simulation
  | 0, w => w.strike target
  | fuel + 1, w =>
    let w := w.runUntilIdle
    match w.nextDue target with
    | some due => elapse target fuel (w.strike (max w.clock due))
    | none => w.strike target

end StreamOperator.Simulation
