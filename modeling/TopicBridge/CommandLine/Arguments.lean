import TopicBridge.CommandLine.Options
import TopicBridge.Number.Decimal

/-! # Arguments

The arguments of the command line are read from left to right. An option with a value takes it from
behind an equals sign, from the same argument behind a single letter, or from the next argument. The
value of an option is only looked at when the next option comes or the arguments end, so an argument
that is not known is reported before a value that does not fit. What no argument sets may be set by a
variable of the environment.
-/

namespace TopicBridge

/-- What an argument can set or ask for. -/
inductive Setting
  | config
  | port
  | bindAddress
  | topicPrefix
  | influxUrl
  | database
  | validate
  | dryRun
  | logLevel
  | logFormat
  | outputFormat
  | help
  | version
  deriving DecidableEq, Repr

/-- Why the command line is not carried out. -/
inductive Halt
  /-- An explanation of the command line is asked for. -/
  | help
  /-- The version is asked for. -/
  | version
  | unknownArgument
  /-- A value is missing, or is none of the values that there are. -/
  | invalidValue
  /-- A value is no number in the range. -/
  | invalidNumber
  /-- Something is set twice. -/
  | repeated
  /-- A value is given where there is none. -/
  | unexpectedValue
  deriving DecidableEq, Repr

namespace Setting

/-- All settings, in the order in which the environment is asked. -/
def all : List Setting :=
  [config, port, bindAddress, topicPrefix, influxUrl, database, validate, dryRun, logLevel,
    logFormat, outputFormat, help, version]

/-- The long name of an argument. -/
def name : Setting → String
  | config => "config"
  | port => "port"
  | bindAddress => "bind-address"
  | topicPrefix => "prefix"
  | influxUrl => "influx-url"
  | database => "database"
  | validate => "validate"
  | dryRun => "dry-run"
  | logLevel => "log-level"
  | logFormat => "log-format"
  | outputFormat => "output-format"
  | help => "help"
  | version => "version"

/-- The letter of an argument, if it has one. -/
def letter? : Setting → Option Char
  | config => some 'c'
  | port => some 'p'
  | logLevel => some 'l'
  | help => some 'h'
  | version => some 'V'
  | _ => none

/-- Whether an argument has a value. -/
def takesValue : Setting → Bool
  | validate => false
  | dryRun => false
  | help => false
  | version => false
  | _ => true

/-- The variable of the environment that a setting is taken from, if there is one. -/
def environmentName? : Setting → Option String
  | config => some "MQTT2INFLUX_CONFIG"
  | port => some "MQTT2INFLUX_PORT"
  | bindAddress => some "MQTT2INFLUX_BIND_ADDRESS"
  | topicPrefix => some "MQTT2INFLUX_PREFIX"
  | influxUrl => some "MQTT2INFLUX_INFLUX_URL"
  | database => some "MQTT2INFLUX_DATABASE"
  | logLevel => some "MQTT2INFLUX_LOG_LEVEL"
  | logFormat => some "MQTT2INFLUX_LOG_FORMAT"
  | _ => none

/-- The setting with a long name. -/
def ofName? (s : String) : Option Setting := all.find? fun x => x.name = s

/-- The setting with a letter. -/
def ofLetter? (c : Char) : Option Setting := all.find? fun x => x.letter? = some c

end Setting

/-- A port: a number of 16 bits. -/
def portOf? (s : String) : Option Nat :=
  match readInt64 s.toList with
  | .ok n => if 0 ≤ n ∧ n ≤ 65535 then some n.toNat else none
  | .error _ => none

/-- A value, or the reason that there is none. -/
def orHalt {α : Type} (halt : Halt) : Option α → Except Halt α
  | some a => .ok a
  | none => .error halt

namespace Options

/-- Sets a value. -/
def set (o : Options) (value : String) : Setting → Except Halt Options
  | .config => if value.isEmpty then .error .invalidValue else .ok { o with config := value }
  | .port => (orHalt .invalidNumber (portOf? value)).map fun n => { o with port := some n }
  | .bindAddress => .ok { o with bindAddress := some value }
  | .topicPrefix => .ok { o with topicPrefix := some value }
  | .influxUrl => .ok { o with influxUrl := some value }
  | .database => .ok { o with database := some value }
  | .validate => .ok { o with validate := true }
  | .dryRun => .ok { o with dryRun := true }
  | .logLevel =>
    (orHalt .invalidValue (LogLevel.ofName? value)).map fun l => { o with logLevel := l }
  | .logFormat =>
    (orHalt .invalidValue (LogFormat.ofName? value)).map fun f => { o with logFormat := f }
  | .outputFormat =>
    (orHalt .invalidValue (OutputFormat.ofName? value)).map fun f => { o with outputFormat := f }
  | .help => .error .help
  | .version => .error .version

end Options

/-- Where the reading of arguments stands. -/
structure Arguments where
  options : Options
  /-- What has been set. -/
  given : List Setting
  /-- What is set next, and its value if that has come. -/
  pending : Option (Setting × Option String)
  deriving DecidableEq, Repr

namespace Arguments

/-- Nothing read. -/
def start : Arguments := ⟨.standard, [], none⟩

/-- Sets something that has not been set. -/
def put (a : Arguments) (x : Setting) (value : String) : Except Halt Arguments :=
  if a.given.contains x then .error .repeated
  else (a.options.set value x).map fun o => { a with options := o, given := x :: a.given }

/-- Sets what is pending. -/
def settle (a : Arguments) : Except Halt Arguments :=
  match a.pending with
  | none => .ok a
  | some (_, none) => .error .invalidValue
  | some (x, some value) => { a with pending := none }.put x value

/-- An option comes, with a value at hand or not. -/
def option (a : Arguments) (x : Setting) (value : Option String) : Except Halt Arguments := do
  let a ← a.settle
  match value with
  | some value => a.put x value
  | none => return { a with pending := some (x, none) }

/-- A switch comes. -/
def switch (a : Arguments) (x : Setting) : Except Halt Arguments := do (← a.settle).put x ""

/-- Reads an argument behind two hyphens. -/
def long (a : Arguments) (cs : List Char) : Except Halt Arguments :=
  let value :=
    match cs.dropWhile (· ≠ '=') with
    | [] => none
    | _ :: value => some (String.ofList value)
  match Setting.ofName? (String.ofList (cs.takeWhile (· ≠ '='))) with
  | none => .error .unknownArgument
  | some x =>
    if x.takesValue then a.option x value
    else if value.isSome then .error .unexpectedValue
    else a.switch x

/-- Reads letters behind one hyphen. -/
def short (a : Arguments) : List Char → Except Halt Arguments
  | [] => .ok a
  | c :: cs =>
    match Setting.ofLetter? c with
    | none => .error .unknownArgument
    | some x =>
      if x.takesValue then
        match cs with
        | [] => a.option x none
        | '=' :: value => a.option x (some (String.ofList value))
        | value => a.option x (some (String.ofList value))
      else
        match a.switch x with
        | .ok a => a.short cs
        | .error halt => .error halt

/-- Reads an argument that is no option: the value that is pending, if there is one. -/
def plain (a : Arguments) (s : String) : Except Halt Arguments :=
  match a.pending with
  | some (x, none) => .ok { a with pending := some (x, some s) }
  | _ => .error .unknownArgument

/-- Reads one argument. -/
def read (a : Arguments) (s : String) : Except Halt Arguments :=
  match s.toList with
  | '-' :: '-' :: cs => a.long cs
  | '-' :: c :: cs => a.short (c :: cs)
  | _ => a.plain s

/-- Reads all arguments; behind two hyphens alone there may be none. -/
def readAll (a : Arguments) : List String → Except Halt Arguments
  | [] => a.settle
  | "--" :: rest => if rest.isEmpty then a.settle else .error .unknownArgument
  | s :: rest =>
    match a.read s with
    | .ok a => a.readAll rest
    | .error halt => .error halt

/-- Takes a setting from the environment, unless an argument has set it. -/
def takeVariable (environment : List (String × String)) (a : Arguments) (x : Setting) :
    Except Halt Arguments :=
  match x.environmentName?.bind (lookup? · environment) with
  | some value => if a.given.contains x then .ok a else a.put x value
  | none => .ok a

end Arguments

/-- Reads the command line under an environment. -/
def Options.read (args : List String) (environment : List (String × String)) :
    Except Halt Options := do
  let a ← Arguments.start.readAll args
  return (← Setting.all.foldlM (Arguments.takeVariable environment) a).options

end TopicBridge
