import StreamOperator.Json.Record

/-!
# Status conditions

A status lists conditions of which each type stands for one question about the resource. A
condition that is set keeps the time of its last transition while its status stays the same.
Conditions on their way to a status are pending: they get their time when the status is written, so
that two commands that ask for the same status are equal.
-/

set_option autoImplicit false

namespace StreamOperator

structure Condition where
  type : String
  status : String
  lastTransitionTime : Option String := none
  reason : Option String := none
  message : Option String := none
  deriving DecidableEq, Repr

namespace Condition

/-! ## Vocabulary -/

def isTrue : String := "True"
def isFalse : String := "False"
def isUnknown : String := "Unknown"

def ready : String := "Ready"
def error : String := "Error"

/-- The values of a status and the types, in the order of their definition. -/
def words : List String := [isTrue, isFalse, isUnknown, ready, error]

namespace Reason

def running : String := "Running"
def reloading : String := "Reloading"
def suspended : String := "Suspended"
def crashLoop : String := "CrashLoopDetected"
def internalError : String := "InternalError"
def jobStartFailed : String := "JobStartFailed"
def attached : String := "PipelineAttached"
def pipelineFailed : String := "PipelineFailed"
def stopped : String := "OperatorStopped"

def all : List String :=
  [running, reloading, suspended, crashLoop, internalError, jobStartFailed, attached, pipelineFailed,
    stopped]

end Reason

/-- A condition without a time. -/
def pending (type status reason message : String) : Condition :=
  ⟨type, status, none, some reason, some message⟩

/-! ## Lists of conditions -/

/-- What becomes of a condition of the same type: a new status replaces it, else the reason and the
message do. -/
def update (new existing : Condition) : Condition :=
  if existing.status ≠ new.status then new
  else { existing with reason := new.reason, message := new.message }

/-- Sets a condition: the first of its type is updated; if there is none it comes at the end. -/
def set (new : Condition) : List Condition → List Condition
  | [] => [new]
  | existing :: rest =>
    if existing.type = new.type then new.update existing :: rest else existing :: set new rest

/-- The condition with the present time, if it has none of its own. -/
def stamp (now : String) (c : Condition) : Condition :=
  { c with lastTransitionTime := some (c.lastTransitionTime.getD now) }

/-- Sets pending conditions one after another. -/
def merge (now : String) (existing pending : List Condition) : List Condition :=
  pending.foldl (fun merged c => set (c.stamp now) merged) existing

/-! ## Writing and reading -/

def record : Record Condition :=
  (Record.const Condition.mk)
    |>.and (.required "type" Decode.text)
    |>.and (.required "status" Decode.text)
    |>.and (.optional "lastTransitionTime" Decode.text)
    |>.and (.optional "reason" Decode.text)
    |>.and (.optional "message" Decode.text)

def decode (owner : String) : Decoder Condition := Record.struct owner record

def encode (c : Condition) : Json :=
  .obj [("lastTransitionTime", Encode.optional Json.str c.lastTransitionTime),
    ("message", Encode.optional Json.str c.message), ("reason", Encode.optional Json.str c.reason),
    ("status", .str c.status), ("type", .str c.type)]

end Condition

end StreamOperator
