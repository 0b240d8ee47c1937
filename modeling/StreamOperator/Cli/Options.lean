/-!
# Options of the command line

Arguments are read from left to right. An option takes its value after an equals sign or from the
next argument; no option may be given twice. What the arguments leave open is taken from the
environment.
-/

set_option autoImplicit false

namespace StreamOperator.Cli

/-- The options that take a value. -/
inductive Setting where
  | config
  | space
  | restartDelay
  deriving DecidableEq, Repr

namespace Setting

def all : List Setting := [config, space, restartDelay]

def flag : Setting → String
  | config => "config"
  | space => "namespace"
  | restartDelay => "restart-delay-seconds"

/-- The environment variable that stands in for the option. -/
def variableName : Setting → String
  | config => "ARCANE_OPERATOR_CONFIG"
  | space => "WATCH_NAMESPACE"
  | restartDelay => "RESTART_DELAY_SECONDS"

/-- The value as the help names it. -/
def valueName : Setting → String
  | config => "CONFIG"
  | space => "NAMESPACE"
  | restartDelay => "RESTART_DELAY_SECONDS"

def help : Setting → String
  | config => "Operator configuration file (YAML)"
  | space => "Namespace to watch (empty for all namespaces)"
  | restartDelay => "Seconds to wait before restarting a failed pipeline"

def ofFlag? (name : String) : Option Setting := all.find? fun s => s.flag == name

end Setting

structure Options where
  config : Option String := none
  space : Option String := none
  restartDelaySeconds : Option Nat := none
  printDefinitions : Bool := false
  deriving DecidableEq, Repr

/-- Why a command line is refused. -/
inductive UsageError where
  | unknownArgument (argument : String)
  | missingValue (option : String)
  | unexpectedValue (option : String)
  | invalidValue (option value : String)
  | repeated (option : String)
  deriving DecidableEq, Repr

def UsageError.message : UsageError → String
  | unknownArgument argument => "unexpected argument '" ++ argument ++ "' found"
  | missingValue option =>
    "a value is required for '--" ++ option ++ "' but none was supplied"
  | unexpectedValue option => "unexpected value for '--" ++ option ++ "' found"
  | invalidValue option value => "invalid value '" ++ value ++ "' for '--" ++ option ++ "'"
  | repeated option => "the argument '--" ++ option ++ "' cannot be used multiple times"

/-- What takes the place of a run. -/
inductive Stop where
  | help
  | version
  | usage (e : UsageError)
  deriving DecidableEq, Repr

namespace Options

/-- A number of at most 64 bits, in digits after an optional plus sign. -/
def number? (text : String) : Option Nat :=
  let digits := match text.toList with
    | '+' :: rest => rest
    | digits => digits
  if digits.isEmpty || !digits.all Char.isDigit then none
  else (some (digits.foldl (fun n d => n * 10 + (d.toNat - 48)) 0)).filter (· < Nat.pow 2 64)

def isSet (o : Options) : Setting → Bool
  | .config => o.config.isSome
  | .space => o.space.isSome
  | .restartDelay => o.restartDelaySeconds.isSome

/-- Sets the value of an option: the path of a file may not be empty, and a delay is a number. -/
def set (o : Options) (s : Setting) (value : String) : Except UsageError Options :=
  match s with
  | .config =>
    if value = "" then .error (.invalidValue s.flag value) else .ok { o with config := some value }
  | .space => .ok { o with space := some value }
  | .restartDelay =>
    match number? value with
    | some n => .ok { o with restartDelaySeconds := some n }
    | none => .error (.invalidValue s.flag value)

/-- Sets the value of an option that may be given once. -/
def setOnce (o : Options) (s : Setting) (value : String) : Except UsageError Options :=
  if o.isSet s then .error (.repeated s.flag) else o.set s value

/-! ## Arguments -/

/-- The name of a long option and the value attached to it. -/
def long? (argument : String) : Option (String × Option String) :=
  match argument.toList with
  | '-' :: '-' :: rest =>
    let name := rest.takeWhile (· ≠ '=')
    let value := match rest.drop name.length with
      | '=' :: value => some (String.ofList value)
      | _ => none
    some (String.ofList name, value)
  | _ => none

/-- An argument that cannot be the value of the option before it. -/
def isFlagLike (argument : String) : Bool :=
  match argument.toList with
  | '-' :: _ :: _ => true
  | _ => false

def usage {α : Type} (e : UsageError) : Except Stop α := .error (.usage e)

/-- A long option that takes no value. -/
def readSwitch (o : Options) (argument name : String) (attached : Bool) : Except Stop Options :=
  if name ≠ "help" ∧ name ≠ "version" ∧ name ≠ "print-crds" then usage (.unknownArgument argument)
  else if attached then usage (.unexpectedValue name)
  else if name = "help" then .error .help
  else if name = "version" then .error .version
  else if o.printDefinitions then usage (.repeated name)
  else .ok { o with printDefinitions := true }

/-- A short option, or an argument that is none. -/
def readOther (argument : String) : Stop :=
  match argument.toList with
  | '-' :: 'h' :: _ => .help
  | '-' :: 'V' :: _ => .version
  | _ => .usage (.unknownArgument argument)

def ofUsage {α : Type} : Except UsageError α → Except Stop α
  | .ok a => .ok a
  | .error e => usage e

/-- Reads the arguments from left to right. -/
def read (o : Options) : List String → Except Stop Options
  | [] => .ok o
  | ["--"] => .ok o
  | argument :: rest =>
    match long? argument with
    | none => .error (readOther argument)
    | some (name, attached) =>
      match Setting.ofFlag? name, attached, rest with
      | none, _, rest => do
        let o ← readSwitch o argument name attached.isSome
        read o rest
      | some s, some value, rest => do
        let o ← ofUsage (o.setOnce s value)
        read o rest
      | some s, none, [] => usage (.missingValue s.flag)
      | some s, none, value :: rest =>
        if isFlagLike value then usage (.missingValue s.flag)
        else do
          let o ← ofUsage (o.setOnce s value)
          read o rest

/-! ## Environment -/

/-- Takes the options that were not given from the environment. -/
def complete (o : Options) (environment : String → Option String) :
    List Setting → Except UsageError Options
  | [] => .ok o
  | s :: rest =>
    match environment s.variableName with
    | none => complete o environment rest
    | some value =>
      if o.isSet s then complete o environment rest
      else
        match o.set s value with
        | .ok o => complete o environment rest
        | .error e => .error e

/-- The options of a command line within an environment. -/
def ofArguments (environment : String → Option String) (arguments : List String) :
    Except Stop Options := do
  let o ← read {} arguments
  ofUsage (o.complete environment Setting.all)

end Options

end StreamOperator.Cli
