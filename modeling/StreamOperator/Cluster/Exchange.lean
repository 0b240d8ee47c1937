import StreamOperator.Cluster.Target
import StreamOperator.Error
import StreamOperator.Json.Decode
import StreamOperator.Kube.Coordinates

/-!
# Requests to a cluster and its replies

A request names a method, a target and a body; it is not sent at all when it cannot be built. A reply
is an answer with a code and a text, unless the connection was refused. Codes from 400 on report a
failure.
-/

set_option autoImplicit false

namespace StreamOperator

inductive Method where
  | get
  | post
  | patch
  | delete
  deriving DecidableEq, Repr

def Method.text : Method → String
  | get => "GET"
  | post => "POST"
  | patch => "PATCH"
  | delete => "DELETE"

/-- What the body of a request is meant as. -/
inductive Content where
  | value
  | mergePatch
  deriving DecidableEq, Repr

def Content.text : Content → String
  | value => "application/json"
  | mergePatch => "application/merge-patch+json"

structure Request where
  method : Method
  target : Target
  body : Option (Content × Json) := none

/-- Why a request cannot be built. -/
inductive BuildFault where
  | emptyName
  /-- The name recorded on a write is too long. -/
  | fieldManager (parameters : String)
  | target (fault : Target.Fault)
  deriving DecidableEq, Repr

def BuildFault.message : BuildFault → String
  | emptyName => "failed to validate request: A non-empty name is required"
  | fieldManager parameters =>
    "failed to validate request: Failed to validate " ++ parameters ++ "::field_manager!"
  | target fault => "failed to build request: " ++ fault.message

/-- A request to the target that a text names. -/
def Request.build (method : Method) (target : String) (body : Option (Content × Json)) :
    Except BuildFault Request :=
  match Target.ofText target with
  | .ok target => .ok ⟨method, target, body⟩
  | .error fault => .error (.target fault)

namespace Coordinates

/-- The type of jobs. -/
def jobs : Coordinates := ⟨"batch", "v1", "jobs", "Job"⟩

/-- The path of the resources of a type, in one namespace or in all. -/
def path (c : Coordinates) (space : Option String) : String :=
  let root := if c.group = "" then "/api/" else "/apis/"
  let part := match space with
    | some space => "namespaces/" ++ space ++ "/"
    | none => ""
  root ++ c.apiVersion ++ "/" ++ part ++ c.plural

/-- The path of one resource. -/
def resourcePath (c : Coordinates) (space name : String) : String :=
  c.path (some space) ++ "/" ++ name

end Coordinates

/-! ## Replies -/

inductive Reply where
  | answer (code : Nat) (text : String)
  /-- There was no connection. -/
  | refused (reason : String)
  deriving DecidableEq, Repr

namespace Reply

/-- The standard phrases of the codes that report a failure. -/
def phrases : List (Nat × String) := [
  (400, "Bad Request"), (401, "Unauthorized"), (402, "Payment Required"), (403, "Forbidden"),
  (404, "Not Found"), (405, "Method Not Allowed"), (406, "Not Acceptable"),
  (407, "Proxy Authentication Required"), (408, "Request Timeout"), (409, "Conflict"),
  (410, "Gone"), (411, "Length Required"), (412, "Precondition Failed"),
  (413, "Payload Too Large"), (414, "URI Too Long"), (415, "Unsupported Media Type"),
  (416, "Range Not Satisfiable"), (417, "Expectation Failed"), (418, "I'm a teapot"),
  (421, "Misdirected Request"), (422, "Unprocessable Entity"), (423, "Locked"),
  (424, "Failed Dependency"), (425, "Too Early"), (426, "Upgrade Required"),
  (428, "Precondition Required"), (429, "Too Many Requests"),
  (431, "Request Header Fields Too Large"), (451, "Unavailable For Legal Reasons"),
  (500, "Internal Server Error"), (501, "Not Implemented"), (502, "Bad Gateway"),
  (503, "Service Unavailable"), (504, "Gateway Timeout"), (505, "HTTP Version Not Supported"),
  (506, "Variant Also Negotiates"), (507, "Insufficient Storage"), (508, "Loop Detected"),
  (510, "Not Extended"), (511, "Network Authentication Required")]

/-- A code with its phrase. -/
def statusLine (code : Nat) : String :=
  let phrase := match phrases.find? fun entry => entry.1 == code with
    | some (_, phrase) => phrase
    | none => "<unknown status code>"
  s!"{code} " ++ phrase

def reportsFailure (code : Nat) : Bool := 400 ≤ code && code < 600

/-- The status of a refusal: the status object in the text, if it holds one, or one that quotes the
text. -/
def status (code : Nat) (text : String) : ApiStatus :=
  match ApiStatus.decode.ofText text with
  | .ok status => status
  | .error _ => ⟨statusLine code, Text.quoted text, "Failed to parse error data", code⟩

def unreadable (reason : String) : Failure := .client ("Error deserializing response: " ++ reason)

/-- What is read from the text of an answer. -/
def read {α : Type} (read : String → Except Json.TextError α) : Reply → Except Failure α
  | refused reason => .error (.client ("ServiceError: " ++ reason))
  | answer code text =>
    if reportsFailure code then .error (.api (status code text))
    else
      match read text with
      | .ok a => .ok a
      | .error e => .error (unreadable e.message)

end Reply

end StreamOperator
