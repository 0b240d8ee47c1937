import StreamOperator.Json.Record

/-!
# Reports on requests

What a cluster answers instead of a resource: whether the request succeeded, and details of what it
was about. All parts may be absent.
-/

set_option autoImplicit false

namespace StreamOperator

inductive Verdict where
  | success
  | failure
  deriving DecidableEq, Repr

namespace Verdict

def all : List Verdict := [success, failure]

def text : Verdict → String
  | success => "Success"
  | failure => "Failure"

def decode : Decoder Verdict := Decode.variant all text

end Verdict

/-- One of the causes of a failure. -/
structure Cause where
  reason : String := ""
  message : String := ""
  field : String := ""
  deriving DecidableEq, Repr

namespace Cause

def record : Record Cause :=
  (Record.const Cause.mk)
    |>.and (.defaulted "reason" Decode.text "")
    |>.and (.defaulted "message" Decode.text "")
    |>.and (.defaulted "field" Decode.text "")

def decode : Decoder Cause := Record.struct "StatusCause" record

end Cause

/-- What a request was about. -/
structure Subject where
  name : String := ""
  group : String := ""
  kind : String := ""
  uid : String := ""
  causes : List Cause := []
  retryAfterSeconds : Nat := 0
  deriving DecidableEq, Repr

namespace Subject

def record : Record Subject :=
  (Record.const Subject.mk)
    |>.and (.defaulted "name" Decode.text "")
    |>.and (.defaulted "group" Decode.text "")
    |>.and (.defaulted "kind" Decode.text "")
    |>.and (.defaulted "uid" Decode.text "")
    |>.and (.defaulted "causes" (Decode.list Cause.decode) [])
    |>.and (.defaulted "retryAfterSeconds" Decode.unsigned32 0)

def decode : Decoder Subject := Record.struct "StatusDetails" record

end Subject

structure Report where
  verdict : Option Verdict := none
  code : Nat := 0
  message : String := ""
  reason : String := ""
  subject : Option Subject := none
  deriving DecidableEq, Repr

namespace Report

def record : Record Report :=
  (Record.const Report.mk)
    |>.and (.optional "status" Verdict.decode)
    |>.and (.defaulted "code" Decode.unsigned16 0)
    |>.and (.defaulted "message" Decode.text "")
    |>.and (.defaulted "reason" Decode.text "")
    |>.and (.optional "details" Subject.decode)

def decode : Decoder Report := Record.struct "Status" record

end Report

end StreamOperator
