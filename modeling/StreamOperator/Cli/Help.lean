import StreamOperator.Cli.Options
import StreamOperator.Text.Wrapped

/-!
# Help and version
-/

set_option autoImplicit false

namespace StreamOperator.Cli

def programName : String := "arcane-operator"

def programVersion : String := "0.1.0"

def versionText : String := programName ++ " " ++ programVersion

def indentation : String := "          "

/-- A description: on lines of its own, of at most 100 characters. -/
def described (text : String) : String :=
  let lines := Text.wrapped (100 - indentation.length) text.toList
  indentation ++ String.ofList (lines.flatMap fun c => if c = '\n' then c :: indentation.toList else [c])

/-- The lines on an option with a value; they show the value of its environment variable. -/
def Setting.helpLines (environment : String → Option String) (s : Setting) : List String :=
  let current := (environment s.variableName).getD ""
  ["      --" ++ s.flag ++ " <" ++ s.valueName ++ ">",
    described (s.help ++ " [env: " ++ s.variableName ++ "=" ++ current ++ "]")]

def helpText (environment : String → Option String) : String :=
  "\n".intercalate
    (["Kubernetes operator for Arcane streaming jobs", "",
      "Usage: " ++ programName ++ " [OPTIONS]", "", "Options:"]
      ++ Setting.all.flatMap (Setting.helpLines environment)
      ++ ["      --print-crds", described "Print the CRD YAML and exit",
        "  -h, --help", described "Print help", "  -V, --version", described "Print version"])

end StreamOperator.Cli
