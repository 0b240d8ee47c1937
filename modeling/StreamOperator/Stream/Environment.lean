import StreamOperator.Kube.Job
import StreamOperator.Stream.View

/-!
# The environment of a stream job

A job learns about its stream from four variables. Fields of the specification that refer to secrets
are taken out of the text it gets; each of them that names a secret becomes a source of variables.
-/

set_option autoImplicit false

namespace StreamOperator

structure Environment where
  vars : List EnvVar
  sources : List EnvSource
  deriving DecidableEq

namespace Environment

/-- What the names of the variables start with. -/
def keyPrefix : String := "STREAMCONTEXT__"

def streamVar (name value : String) : EnvVar := { name := keyPrefix ++ name, value := some value }

/-- The name in the value of a secret field: the text itself, or the text under `name` in an object.
An empty text names nothing. -/
def secretName? (value : Json) : Option String :=
  let name :=
    match value with
    | .str s => some s
    | .obj fields => (Entries.get? "name" fields).bind Json.text?
    | _ => none
  name.filter fun s => s ≠ ""

def secretSource (name : String) : EnvSource := { secretRef := some ⟨name, none⟩ }

/-- Takes the secret fields out one after another, and collects the sources in the order of the
list. -/
def extractSecrets (secretFields : List String) (fields : List (String × Json)) :
    List (String × Json) × List EnvSource :=
  secretFields.foldl
    (fun (state : List (String × Json) × List EnvSource) field =>
      match Entries.get? field state.1 with
      | none => state
      | some value =>
        (Entries.erase field state.1,
          state.2 ++ (secretName? value).toList.map secretSource))
    (fields, [])

/-- The payload without its secret fields, with the sources of the secrets. -/
def splitSecrets (secretFields : List String) : Json → Json × List EnvSource
  | .obj fields => (extractSecrets secretFields fields).map Json.obj id
  | payload => (payload, [])

def flag (b : Bool) : String := if b then "true" else "false"

end Environment

/-- The environment of a stream's job. -/
def StreamView.environment (v : StreamView) (backfilling : Bool) (secretFields : List String) :
    Environment :=
  let (payload, sources) := Environment.splitSecrets secretFields v.payload
  { vars := [
      Environment.streamVar "STREAM_ID" v.id,
      Environment.streamVar "STREAM_KIND" v.kind,
      Environment.streamVar "BACKFILL" (Environment.flag backfilling),
      Environment.streamVar "SPEC" payload.canonical.render]
    sources := sources }

end StreamOperator
