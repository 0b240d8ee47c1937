import StreamOperator.Json.Record

/-!
# Failures

Every way an operation of the operator can fail, with its message and the questions the rest of
the program asks of it: whether it ends the pipeline that met it, and whether the cluster answered
with "not found" or "conflict".
-/

set_option autoImplicit false

namespace StreamOperator

/-- The status object of a request that the cluster refused. -/
structure ApiStatus where
  status : String
  message : String
  reason : String
  code : Nat
  deriving DecidableEq, Repr

namespace ApiStatus

def record : Record ApiStatus :=
  (Record.const ApiStatus.mk)
    |>.and (.required "status" Decode.text)
    |>.and (.defaulted "message" Decode.text "")
    |>.and (.defaulted "reason" Decode.text "")
    |>.and (.required "code" Decode.unsigned16)

def decode : Decoder ApiStatus := Record.struct "ErrorResponse" record

/-- The fields with their names, strings quoted. -/
def details (s : ApiStatus) : String :=
  "ErrorResponse \x7b status: " ++ Text.quoted s.status ++ ", message: " ++ Text.quoted s.message
    ++ ", reason: " ++ Text.quoted s.reason ++ s!", code: {s.code}" ++ " \x7d"

def text (s : ApiStatus) : String :=
  "ApiError: " ++ s.message ++ ": " ++ s.reason ++ " (" ++ s.details ++ ")"

end ApiStatus

inductive Failure where
  /-- The cluster refused a request. -/
  | api (status : ApiStatus)
  /-- A request did not get an answer, or not a readable one. -/
  | client (reason : String)
  | configuration (reason : String)
  /-- A referenced object does not exist. -/
  | missingReference (reason : String)
  | serialization (cause : DecodeError)
  | notFound (kind name space : String)
  | invalidState (reason : String)
  /-- A bounded event buffer rejected an event. -/
  | bufferOverflow (source : String) (capacity : Nat)
  /-- The watched resource type itself no longer exists. -/
  | watchTargetMissing (target : String)
  /-- The other side of an event subscription went away. -/
  | subscriptionClosed (source : String)
  deriving DecidableEq, Repr

namespace Failure

def message : Failure → String
  | api status => "Kubernetes API error: " ++ status.text
  | client reason => "Kubernetes API error: " ++ reason
  | configuration reason => "Configuration error: " ++ reason
  | missingReference reason => "Missing reference: " ++ reason
  | serialization cause => "Serialization error: " ++ cause.message
  | notFound kind name space =>
    "Resource not found: " ++ kind ++ "/" ++ name ++ " in namespace " ++ space
  | invalidState reason => "Invalid state: " ++ reason
  | bufferOverflow source capacity =>
    s!"Event buffer overflow: capacity {capacity} exceeded for " ++ source
  | watchTargetMissing target => "Watch target missing: " ++ target
  | subscriptionClosed source => "Subscription closed: " ++ source

/-- The failure ends the pipeline that met it; after any other the pipeline goes on with the next
event. -/
def isFatal : Failure → Bool
  | bufferOverflow _ _ | watchTargetMissing _ | subscriptionClosed _ => true
  | _ => false

/-- The code of the refusal. -/
def apiCode? : Failure → Option Nat
  | api status => some status.code
  | _ => none

def isNotFound : Failure → Bool
  | notFound _ _ _ => true
  | api status => status.code == 404
  | _ => false

def isConflict : Failure → Bool
  | api status => status.code == 409
  | _ => false

end Failure

end StreamOperator
