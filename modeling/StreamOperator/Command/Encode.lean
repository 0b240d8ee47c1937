import StreamOperator.Command

/-!
# Commands as values

A command is data, so it can be written down: as an object that names the command, its target and
what is to be done to it. Of a stream definition only its reference and its version are written.
-/

set_option autoImplicit false

namespace StreamOperator

def StreamRef.encode (r : StreamRef) : Json :=
  .obj [("coordinates", r.coordinates.encode), ("name", .str r.name), ("namespace", .str r.space)]

/-- A namespace and a name. -/
def Encode.place (space name : String) : Json :=
  .obj [("name", .str name), ("namespace", .str space)]

def AnnotationTarget.encode (t : AnnotationTarget) : Json :=
  match t with
  | .definition stream => .obj [("display", .str t.display), ("stream", stream.encode)]
  | .job space name => .obj [("display", .str t.display), ("job", Encode.place space name)]

namespace Command

def word : Command → String
  | startJob _ _ => "StartJob"
  | stopJob _ _ => "StopJob"
  | annotate _ _ _ => "SetAnnotation"
  | unannotate _ _ _ => "RemoveAnnotation"
  | updateStatus _ _ _ => "UpdateStatus"
  | setClassStatus _ _ _ => "SetStreamClassStatus"

/-- What is to be done, and to what. -/
def fields : Command → List (String × Json)
  | startJob d backfilling =>
    [("stream", d.reference.encode),
      ("resourceVersion", Encode.optional Json.str d.resource.metadata.resourceVersion),
      ("backfilling", .bool backfilling)]
  | stopJob space name => [("namespace", .str space), ("name", .str name)]
  | annotate target key value =>
    [("target", target.encode), ("key", .str key), ("value", .str value)]
  | unannotate target key expected =>
    [("target", target.encode), ("key", .str key),
      ("expected", Encode.optional Json.str expected)]
  | updateStatus stream phase conditions =>
    [("stream", stream.encode), ("phase", phase.encode),
      ("conditions", Encode.list Condition.encode conditions)]
  | setClassStatus c phase conditions =>
    [("class", Encode.place c.space c.name), ("phase", phase.encode),
      ("conditions", Encode.list Condition.encode conditions)]

def encode (c : Command) : Json := .obj (Entries.ofList (("command", .str c.word) :: c.fields))

end Command

end StreamOperator
