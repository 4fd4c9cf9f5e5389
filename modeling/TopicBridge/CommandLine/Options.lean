import TopicBridge.Config.Validation

/-! # Options

What the command line says: which configuration to load, what to change in it, and what to do with
it.
-/

namespace TopicBridge

/-- The least level of events that are told. -/
inductive LogLevel
  | trace
  | debug
  | info
  | warn
  | error
  deriving DecidableEq, Repr

/-- The name of a level. -/
def LogLevel.name : LogLevel → String
  | trace => "trace"
  | debug => "debug"
  | info => "info"
  | warn => "warn"
  | error => "error"

/-- The level with a name. -/
def LogLevel.ofName? (s : String) : Option LogLevel :=
  [trace, debug, info, warn, error].find? fun l => l.name = s

/-- How events are written. -/
inductive LogFormat
  | text
  | json
  deriving DecidableEq, Repr

/-- The name of a format. -/
def LogFormat.name : LogFormat → String
  | text => "text"
  | json => "json"

/-- The format with a name. -/
def LogFormat.ofName? (s : String) : Option LogFormat := [text, json].find? fun f => f.name = s

/-- How a report is written. -/
inductive OutputFormat
  | text
  | json
  | yaml
  deriving DecidableEq, Repr

/-- The name of a format. -/
def OutputFormat.name : OutputFormat → String
  | text => "text"
  | json => "json"
  | yaml => "yaml"

/-- The format with a name. -/
def OutputFormat.ofName? (s : String) : Option OutputFormat :=
  [text, json, yaml].find? fun f => f.name = s

/-- What the command line says. -/
structure Options where
  /-- The file that holds the configuration. -/
  config : String
  port : Option Nat
  bindAddress : Option String
  topicPrefix : Option String
  influxUrl : Option String
  database : Option String
  /-- Only say whether the configuration can be used. -/
  validate : Bool
  /-- Only show what the configuration means. -/
  dryRun : Bool
  logLevel : LogLevel
  logFormat : LogFormat
  outputFormat : OutputFormat
  deriving DecidableEq, Repr

namespace Options

/-- What an empty command line says. -/
def standard : Options where
  config := "config.yaml"
  port := none
  bindAddress := none
  topicPrefix := none
  influxUrl := none
  database := none
  validate := false
  dryRun := false
  logLevel := .info
  logFormat := .text
  outputFormat := .text

/-- The server to write to: the one of the configuration with what the command line changes, or a
new one if there is a database. -/
def overrideInflux (o : Options) :
    Option InfluxSettings → Except ConfigFault (Option InfluxSettings)
  | some s =>
    .ok (some { s with url := o.influxUrl.getD s.url, database := o.database.getD s.database })
  | none =>
    match o.database, o.influxUrl with
    | some database, url =>
      -- the address and the numbers are written out here as well as where files are read
      .ok (some ⟨url.getD "http://localhost:8086", database, none, none, 5000, 3⟩)
    | none, some _ => .error (.invalid .urlWithoutDatabase)
    | none, none => .ok none

/-- A configuration with what the command line changes, if it can still be used. -/
def override (o : Options) (c : Config) : Except ConfigFault Config := do
  let influx ← o.overrideInflux c.influx
  Config.validate
    { c with
      topicPrefix := o.topicPrefix.getD c.topicPrefix
      influx
      server := ⟨o.port.getD c.server.port, o.bindAddress.getD c.server.bindAddress⟩ }

end Options

end TopicBridge
