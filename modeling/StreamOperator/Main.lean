import StreamOperator.Cli.Launch
import StreamOperator.Schema.Definitions
import StreamOperator.Yaml.Printer

/-!
# The program

Carries out what the command line asks for. A run announces itself; without a cluster to connect to
it ends there.
-/

set_option autoImplicit false

namespace StreamOperator.Cli

/-- The line that announces a run. -/
def announcement (config : Config) : String :=
  (Json.obj [("fields", .obj [("message", .str "Starting Arcane Stream Operator"),
    ("namespace", .str (announced config)), ("version", .str programVersion)]),
    ("level", .str "INFO"), ("target", .str "arcane_operator")]).render

/-- The values of the environment variables that stand in for options. -/
def readEnvironment : IO (List (String × String)) :=
  Setting.all.filterMapM fun s => do
    return (← IO.getEnv s.variableName).map fun value => (s.variableName, value)

/-- The text of a file, if it can be read. -/
def readText (path : String) : IO (Option String) := do
  try return some (← IO.FS.readFile path) catch _ => return none

def carryOut : Launch → IO UInt32
  | .usage e => do
    IO.eprintln ("error: " ++ e.message ++ "\n\nFor more information, try '--help'.")
    return 2
  | .print text => do
    IO.println text
    return 0
  | .definitions => do
    for definition in CustomResource.all do
      IO.println ("---\n" ++ Yaml.render definition.encode)
    return 0
  | .refused reason => do
    IO.eprintln ("Error: " ++ reason)
    return 1
  | .start config => do
    IO.println (announcement config)
    IO.eprintln "Error: no cluster to connect to"
    return 1

/-- Runs a command line. -/
def run (arguments : List String) : IO UInt32 := do
  let found ← readEnvironment
  let environment := fun name => (found.find? fun entry => entry.1 == name).map Prod.snd
  match Options.ofArguments environment arguments with
  | .error stop => carryOut (.ofStop environment stop)
  | .ok options =>
    let document ← match options.config with
      | some path => readText path
      | none => pure none
    carryOut (.ofOptions (fun _ => document) options)

end StreamOperator.Cli

def main (arguments : List String) : IO UInt32 := StreamOperator.Cli.run arguments
