import StreamOperator.Key
import StreamOperator.Kube.Metadata

/-!
# States of streams and jobs

The state annotation has the same vocabulary on stream definitions and on jobs. A value outside of
it counts as no state, so that a slip of the owner's pen cannot wedge a stream.
-/

set_option autoImplicit false

namespace StreamOperator

inductive StreamState where
  | suspended
  | reloadRequested
  | restartRequested
  | terminating
  | terminateRequested
  | schemaMismatch
  | crashLoop
  deriving DecidableEq, Repr

namespace StreamState

def all : List StreamState :=
  [suspended, reloadRequested, restartRequested, terminating, terminateRequested, schemaMismatch,
    crashLoop]

def text : StreamState → String
  | suspended => "suspended"
  | reloadRequested => "reload-requested"
  | restartRequested => "restart-requested"
  | terminating => "terminating"
  | terminateRequested => "terminate-requested"
  | schemaMismatch => "schema-mismatch"
  | crashLoop => "crash-loop"

/-- The state of a text. -/
def ofText? (s : String) : Option StreamState := all.find? fun state => state.text = s

/-- What is said about a text that is no state. -/
def unknownMessage (s : String) : String := "unknown stream state '" ++ s ++ "'"

/-- The job is on its way out. -/
def isTerminating : StreamState → Bool
  | terminating | terminateRequested => true
  | _ => false

@[simp] theorem ofText?_text (state : StreamState) : ofText? state.text = some state := by
  cases state <;> decide

theorem text_of_ofText? {s : String} {state : StreamState} (h : ofText? s = some state) :
    state.text = s := by
  simpa using List.find?_some h

end StreamState

/-- The state that the annotations of a resource name. -/
def Metadata.state? (m : Metadata) : Option StreamState :=
  (m.annotation? Key.state).bind StreamState.ofText?

end StreamOperator
