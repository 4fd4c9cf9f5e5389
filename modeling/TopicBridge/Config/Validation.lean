import TopicBridge.Config.Basic
import TopicBridge.Config.Fault
import TopicBridge.Url.Parser

/-! # Validating configurations

A configuration can be used if it has a list of rules, a port and a queue, and if the server that it
names has a URL and a database. What is wrong first, in this order, is reported.
-/

namespace TopicBridge

namespace InfluxSettings

/-- What is wrong with settings. -/
def defect? (s : InfluxSettings) : Option ConfigDefect :=
  match Url.parse s.url with
  | .error cause => some (.invalidUrl s.url cause)
  | .ok _ => if s.database.isEmpty then some .noDatabase else none

end InfluxSettings

namespace Config

/-- What is wrong with a configuration. -/
def fault? (c : Config) : Option ConfigFault :=
  if c.rules.isNone then some .noRules
  else if c.server.port = 0 then some (.invalid .zeroPort)
  else if c.queueCapacity = 0 then some (.invalid .zeroCapacity)
  else (c.influx.bind InfluxSettings.defect?).map .invalid

/-- A configuration that can be used. -/
def validate (c : Config) : Except ConfigFault Config :=
  match c.fault? with
  | none => .ok c
  | some fault => .error fault

end Config

end TopicBridge
