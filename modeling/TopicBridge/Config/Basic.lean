import TopicBridge.Table
import TopicBridge.Value

/-! # Configuration

What a configuration file says: where topics start, where records go, how the server listens and
which rules there are. The entries of rules are kept as written and bound later.
-/

namespace TopicBridge

/-- A part to take out of payloads that are documents. -/
structure ExtractEntry where
  path : String
  kind : Option String
  deriving DecidableEq, Repr

/-- What a rule does with payloads. -/
structure PayloadEntry where
  name : String
  field : Bool
  kind : Option String
  path : Option String
  extract : Table ExtractEntry
  deriving DecidableEq, Repr

/-- What a rule does with a token of its pattern. -/
structure TokenEntry where
  rule : Option String
  fieldName : Option String
  tagName : Option String
  field : Bool
  tag : Bool
  measurement : Bool
  fieldMap : Table Value
  tagMap : Table Value
  deriving DecidableEq, Repr

/-- An entry of the list of rules. -/
structure RuleEntry where
  topic : Option String
  retain : Bool
  disableWrite : Bool
  measurement : Option Value
  payload : Option PayloadEntry
  fields : Option (Table Value)
  tags : Option (Table Value)
  tokens : Option (Table TokenEntry)
  deriving DecidableEq, Repr

/-- Where records are written to. -/
structure InfluxSettings where
  url : String
  database : String
  username : Option String
  password : Option String
  timeoutMs : Nat
  maxRetries : Nat
  deriving DecidableEq, Repr

namespace InfluxSettings

/-- The address of a server on the same machine. -/
def defaultUrl : String := "http://localhost:8086"

/-- How long a write may take, in milliseconds. -/
def defaultTimeoutMs : Nat := 5000

/-- How often a write is tried again. -/
def defaultMaxRetries : Nat := 3

end InfluxSettings

/-- Where the server listens. -/
structure ServerSettings where
  port : Nat
  bindAddress : String
  deriving DecidableEq, Repr

namespace ServerSettings

/-- The port to listen at. -/
def defaultPort : Nat := 9100

/-- The address that stands for all addresses of the machine. -/
def defaultBindAddress : String := "0.0.0.0"

/-- The settings of a server that nothing is said about. -/
def standard : ServerSettings := ⟨defaultPort, defaultBindAddress⟩

end ServerSettings

/-- A configuration. -/
structure Config where
  /-- What topics start with before the rules see them. -/
  topicPrefix : String
  influx : Option InfluxSettings
  server : ServerSettings
  queueCapacity : Nat
  /-- The entries of rules, if there is a list of them. -/
  rules : Option (List RuleEntry)
  deriving DecidableEq, Repr

namespace Config

/-- How many messages may wait. -/
def defaultQueueCapacity : Nat := 10000

/-- The name of the field that takes a payload. -/
def defaultPayloadName : String := "payload"

/-- The entries of rules. -/
def ruleEntries (c : Config) : List RuleEntry := c.rules.getD []

/-- A prefix with a slash at its end, unless it is empty. -/
def closePrefix (lead : String) : String :=
  if lead.isEmpty || lead.toList.getLast? == some '/' then lead else lead ++ "/"

/-- What topics start with, up to a slash. -/
def closedPrefix (c : Config) : String := closePrefix c.topicPrefix

end Config

end TopicBridge
