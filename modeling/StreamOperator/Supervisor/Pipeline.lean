import StreamOperator.Supervisor.Basic

/-!
# Steps of a pipeline
-/

set_option autoImplicit false

namespace StreamOperator.Supervisor

/-- Replaces a pipeline that ended by a new one, unless its handle is gone or belongs to another
one. -/
def restart (s : Supervisor) (p : Pipeline) : Supervisor :=
  let current := (Table.get? p.streamClass.id s.handles).any fun handle => handle.seq == p.seq
  if s.stopped || !current then s else s.spawn p.streamClass true

/-- One step of a pipeline at a time of the clock, with the stage it leaves. -/
def advance (s : Supervisor) (now : String) (clock : Nat) (p : Pipeline) (k : Cluster) :
    Option (PipelineStage × Supervisor × Cluster) :=
  let cancelled := s.isCancelled p
  let h := s.handler now
  match p.stage with
  | .starting restarted =>
    let run := Run.ofClass p.streamClass s.dedupCapacity
    some (if restarted && !cancelled then .announcing .reading else .running run, s, k)
  | .announcing w =>
    match w.step h p.streamClass .restarted k with
    | (some w, k) => some (.announcing w, s, k)
    | (none, k) => some (.running (Run.ofClass p.streamClass s.dedupCapacity), s, k)
  | .running run =>
    match run.result? with
    | some (.ok ()) => some (.finished, s, k)
    | some (.error e) => some (if cancelled then .finished else .reporting e .reading, s, k)
    | none => (run.step h cancelled k).map fun (run, k) => (.running run, s, k)
  | .reporting e w =>
    match w.step h p.streamClass (.failed e) k with
    | (some w, k) => some (.reporting e w, s, k)
    | (none, k) => some (.waiting (clock + s.restartDelay), s, k)
  | .waiting due =>
    if cancelled then some (.finished, s, k)
    else if due ≤ clock then some (.restarting, s, k)
    else none
  | .restarting => some (.finished, s.restart p, k)
  | .finished => none

/-- One step of the pipeline with a number; none when it waits or has ended. -/
def stepPipeline (s : Supervisor) (now : String) (clock seq : Nat) (k : Cluster) :
    Option (Supervisor × Cluster) :=
  (s.pipeline? seq).bind fun p =>
    (s.advance now clock p k).map fun (stage, s, k) => (s.setPipeline { p with stage := stage }, k)

end StreamOperator.Supervisor
