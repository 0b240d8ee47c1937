import StreamOperator.Cli.Help
import StreamOperator.Config.Document

/-!
# What a command line asks for

A command line asks for a text, for the definitions of the custom resources, or for a run with
settings: those of a file, changed by the options.
-/

set_option autoImplicit false

namespace StreamOperator.Cli

inductive Launch where
  | usage (e : UsageError)
  | print (text : String)
  | definitions
  /-- The settings cannot be had. -/
  | refused (reason : String)
  | start (config : Config)

/-- The settings of a file, or the standard ones when no file is named. -/
def Options.load (o : Options) (read : String → Option String) : Except String Config :=
  match o.config with
  | none => .ok {}
  | some path =>
    match read path with
    | none => .error ("Cannot read " ++ path)
    | some document =>
      match Config.ofYaml document with
      | .ok c => .ok c
      | .error e => .error e.message

/-- The settings as the options change them; an empty namespace stands for all of them. -/
def Options.apply (o : Options) (c : Config) : Config :=
  let space := match o.space with
    | some "" => none
    | some space => some space
    | none => c.space
  { c with
    space := space
    restartDelaySeconds := o.restartDelaySeconds.getD c.restartDelaySeconds }

/-- What options ask for, given the files that can be read. -/
def Launch.ofOptions (read : String → Option String) (o : Options) : Launch :=
  if o.printDefinitions then .definitions
  else
    match o.load read with
    | .error reason => .refused reason
    | .ok c =>
      let c := o.apply c
      match c.validate with
      | .ok () => .start c
      | .error e => .refused e.message

/-- What takes the place of a run. -/
def Launch.ofStop (environment : String → Option String) : Stop → Launch
  | .help => .print (helpText environment)
  | .version => .print versionText
  | .usage e => .usage e

/-- What a command line asks for. -/
def Launch.ofArguments (read environment : String → Option String) (arguments : List String) :
    Launch :=
  match Options.ofArguments environment arguments with
  | .ok o => .ofOptions read o
  | .error stop => .ofStop environment stop

/-- The namespace that a run announces. -/
def announced (c : Config) : String := c.space.getD "all"

end StreamOperator.Cli
