import StreamOperator.Error

/-!
# Settings of the operator

Every setting has a default, so an empty document is a valid configuration.
-/

set_option autoImplicit false

namespace StreamOperator

structure Config where
  /-- The namespace to watch; all of them when there is none. -/
  space : Option String := none
  jobBufferCapacity : Nat := 10000
  classBufferCapacity : Nat := 1000
  /-- The number of resources each deduplicator remembers. -/
  dedupCapacity : Nat := 100000
  /-- The greatest number of stream kinds. -/
  classCacheCapacity : Nat := 100
  /-- The delay before a pipeline that ended is started again. -/
  restartDelaySeconds : Nat := 30
  /-- The name recorded on every write. -/
  fieldManager : String := "arcane-operator"
  deriving DecidableEq, Repr, Inhabited

namespace Config

def record : Record Config :=
  (Record.const Config.mk)
    |>.and (.optional "namespace" Decode.text)
    |>.and (.defaulted "jobBufferCapacity" Decode.size 10000)
    |>.and (.defaulted "streamClassBufferCapacity" Decode.size 1000)
    |>.and (.defaulted "dedupCapacity" Decode.size 100000)
    |>.and (.defaulted "streamClassCacheCapacity" Decode.size 100)
    |>.and (.defaulted "restartDelaySeconds" Decode.unsigned64 30)
    |>.and (.defaulted "fieldManager" Decode.text "arcane-operator")

def decode : Decoder Config := Record.struct "OperatorConfig" record

def encode (c : Config) : Json :=
  .obj [("dedupCapacity", Encode.natural c.dedupCapacity),
    ("fieldManager", .str c.fieldManager),
    ("jobBufferCapacity", Encode.natural c.jobBufferCapacity),
    ("namespace", Encode.optional Json.str c.space),
    ("restartDelaySeconds", Encode.natural c.restartDelaySeconds),
    ("streamClassBufferCapacity", Encode.natural c.classBufferCapacity),
    ("streamClassCacheCapacity", Encode.natural c.classCacheCapacity)]

/-- The capacities under their names, in the order they are checked. -/
def capacities (c : Config) : List (String × Nat) := [
  ("jobBufferCapacity", c.jobBufferCapacity),
  ("streamClassBufferCapacity", c.classBufferCapacity),
  ("dedupCapacity", c.dedupCapacity),
  ("streamClassCacheCapacity", c.classCacheCapacity)]

/-- Refuses a capacity of zero and an empty field manager. -/
def validate (c : Config) : Except Failure Unit :=
  match c.capacities.find? fun entry => entry.2 == 0 with
  | some (name, _) => .error (.configuration (name ++ " must be greater than zero"))
  | none =>
    if c.fieldManager = "" then .error (.configuration "fieldManager must not be empty") else .ok ()

end Config

end StreamOperator
