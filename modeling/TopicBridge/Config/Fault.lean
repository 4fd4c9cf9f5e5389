import TopicBridge.Url.Fault

/-! # Faults of configurations

Why a configuration cannot be used, with the wording of each cause.
-/

namespace TopicBridge

/-- What is wrong with the values of a configuration. -/
inductive ConfigDefect
  | zeroPort
  | zeroCapacity
  | invalidUrl (url : String) (cause : UrlFault)
  | noDatabase
  /-- The address of a server is given and no database. -/
  | urlWithoutDatabase
  deriving DecidableEq, Repr

/-- The wording of a defect. -/
def ConfigDefect.message : ConfigDefect → String
  | zeroPort => "Server port must be greater than 0"
  | zeroCapacity => "Queue capacity must be greater than 0"
  | invalidUrl url cause => "Invalid InfluxDB url '" ++ url ++ "': " ++ cause.message
  | noDatabase => "InfluxDB database must not be empty"
  | urlWithoutDatabase =>
    "--influx-url requires --database when the config has no influxdb section"

/-- Why a configuration cannot be used. -/
inductive ConfigFault
  /-- There is no file, or it is no text. -/
  | unreadable
  /-- The text is no configuration. -/
  | malformed
  /-- There is no list of rules. -/
  | noRules
  | invalid (defect : ConfigDefect)
  deriving DecidableEq, Repr

/-- The wording of a fault, if it has one of its own. -/
def ConfigFault.message? : ConfigFault → Option String
  | unreadable => none
  | malformed => none
  | noRules => some "No configuration section for rules"
  | invalid defect => some ("Invalid configuration: " ++ defect.message)

end TopicBridge
