import StreamOperator.Condition

/-!
# Phases and statuses

A status is a phase together with conditions. Streams and stream classes have phases of their own
and share the shape of the status.
-/

set_option autoImplicit false

namespace StreamOperator

/-- The phase of a stream. -/
inductive StreamPhase where
  | running
  | reloading
  | suspended
  | failed
  deriving DecidableEq, Repr

namespace StreamPhase

def all : List StreamPhase := [running, reloading, suspended, failed]

def text : StreamPhase → String
  | running => "RUNNING"
  | reloading => "RELOADING"
  | suspended => "SUSPENDED"
  | failed => "FAILED"

def decode : Decoder StreamPhase := Decode.variant all text

def encode (p : StreamPhase) : Json := .str p.text

/-- The conditions that describe a stream in a phase. -/
def conditions (phase : StreamPhase) (reason message : String) : List Condition :=
  let ready := if phase = running then Condition.isTrue else Condition.isFalse
  let error := if phase = failed then Condition.isTrue else Condition.isFalse
  [.pending Condition.ready ready reason message, .pending Condition.error error reason message]

end StreamPhase

/-- The phase of a stream class; after `failed` and `stopped` no pipeline runs for its kind. -/
inductive ClassPhase where
  | ready
  | failed
  | stopped
  deriving DecidableEq, Repr

namespace ClassPhase

def all : List ClassPhase := [ready, failed, stopped]

def text : ClassPhase → String
  | ready => "READY"
  | failed => "FAILED"
  | stopped => "STOPPED"

def decode : Decoder ClassPhase := Decode.variant all text

def encode (p : ClassPhase) : Json := .str p.text

def isTerminal : ClassPhase → Bool
  | ready => false
  | failed | stopped => true

/-- The condition that describes a class in a phase. -/
def conditions (phase : ClassPhase) (reason message : String) : List Condition :=
  let ready := if phase = .ready then Condition.isTrue else Condition.isFalse
  [.pending Condition.ready ready reason message]

end ClassPhase

/-- A status with phases of type `P`. -/
structure Status (P : Type) where
  phase : Option P := none
  conditions : List Condition := []
  deriving DecidableEq

namespace Status

variable {P : Type}

def record (decodePhase : Decoder P) (condition : String) : Record (Status P) :=
  (Record.const Status.mk)
    |>.and (.optional "phase" decodePhase)
    |>.and (.defaulted "conditions" (Decode.list (Condition.decode condition)) [])

def encode (encodePhase : P → Json) (s : Status P) : Json :=
  .obj [("conditions", Encode.list Condition.encode s.conditions),
    ("phase", Encode.optional encodePhase s.phase)]

/-- The status with a phase and pending conditions merged in, or none when that changes nothing. -/
def advance [DecidableEq P] (s : Status P) (now : String) (phase : P) (pending : List Condition) :
    Option (Status P) :=
  let merged := Condition.merge now s.conditions pending
  if s.phase = some phase ∧ merged = s.conditions then none else some ⟨some phase, merged⟩

end Status

abbrev StreamStatus := Status StreamPhase

namespace StreamStatus

def decode : Decoder StreamStatus :=
  Record.struct "StreamStatus" (Status.record StreamPhase.decode "StreamCondition")

def encode (s : StreamStatus) : Json := Status.encode StreamPhase.encode s

end StreamStatus

abbrev ClassStatus := Status ClassPhase

namespace ClassStatus

def decode : Decoder ClassStatus :=
  Record.struct "StreamClassStatus" (Status.record ClassPhase.decode "StreamClassCondition")

def encode (s : ClassStatus) : Json := Status.encode ClassPhase.encode s

end ClassStatus

end StreamOperator
