import StreamOperator.Config
import StreamOperator.Yaml.Value

/-!
# Settings from a document

The settings are read from a YAML document, of which JSON is a special case. What is read has to be
valid.
-/

set_option autoImplicit false

namespace StreamOperator.Config

/-- How the value of a setting is read. -/
def settings : List (String × (Yaml.Node → Yaml.Result Json)) :=
  let text := fun node => Json.str <$> Yaml.Node.text node
  let natural := fun node => Encode.natural <$> Yaml.Node.natural node
  [("namespace", fun node => Encode.optional Json.str <$> node.optionalText),
    ("jobBufferCapacity", natural), ("streamClassBufferCapacity", natural),
    ("dedupCapacity", natural), ("streamClassCacheCapacity", natural),
    ("restartDelaySeconds", natural), ("fieldManager", text)]

/-- Reads the fields of a document in order: the settings among them, each at most once. -/
def readFields : List (String × Yaml.Node) → Dictionary Json → Yaml.Result (Dictionary Json)
  | [], done => .ok done
  | (name, node) :: rest, done =>
    match settings.find? fun setting => setting.1 == name with
    | none => readFields rest done
    | some (_, read) =>
      if done.contains name then .error (.duplicateField name)
      else
        match read node with
        | .error e => .error e
        | .ok value => readFields rest (done.insert name value)

/-- The fields of a document under the names of the settings. -/
def readDocument (document : String) : Yaml.Result Json := do
  match ← Yaml.Node.ofText document with
  | none => return .obj []
  | some node => return .obj (← readFields (← node.fields) .empty).toList

def invalid (reason : String) : Failure := .configuration ("Invalid configuration: " ++ reason)

/-- The settings of a document. -/
def ofYaml (document : String) : Except Failure Config := do
  let fields ← match readDocument document with
    | .ok fields => pure fields
    | .error e => throw (invalid e.message)
  let config ← match decode fields with
    | .ok config => pure config
    | .error e => throw (invalid e.message)
  config.validate
  return config

end StreamOperator.Config
