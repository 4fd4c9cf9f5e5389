import TopicBridge.CommandLine.Options
import TopicBridge.Rule.Group
import TopicBridge.Yaml.Writer

/-! # Reports

What a configuration means: which subscriptions it makes, which rules are in use and where records
go. A report is written for people to read, or as a document.
-/

namespace TopicBridge

/-- What a report says about a rule. -/
structure RuleSummary where
  topic : String
  subscription : String
  measurement : Option String
  /-- The names of the tokens, from left to right. -/
  captures : List String
  retain : Bool
  disableWrite : Bool
  deriving DecidableEq, Repr

/-- What a configuration means. -/
structure Report where
  /-- What topics start with, up to a slash. -/
  lead : String
  sink : String
  configured : Nat
  valid : Nat
  skipped : Nat
  /-- The subscriptions with what topics start with. -/
  subscriptions : List String
  rules : List RuleSummary
  deriving DecidableEq, Repr

namespace RuleSummary

/-- The summary of a rule. -/
def ofRule (r : Rule) : RuleSummary where
  topic := r.topic
  subscription := r.normalized
  measurement := r.measurement
  captures := r.pattern.names
  retain := r.retain
  disableWrite := r.disableWrite

/-- A summary as a document. -/
def toJson (s : RuleSummary) : Json :=
  .object [("topic", .text s.topic), ("subscription", .text s.subscription),
    ("measurement", (s.measurement.map Json.text).getD .null), ("captures", .ofTexts s.captures),
    ("retain", .bool s.retain), ("disable_write", .bool s.disableWrite)]

/-- The line about a rule. -/
def line (s : RuleSummary) : String :=
  "  " ++ s.topic ++ " -> measurement=" ++ s.measurement.getD "<from token>" ++ " captures=[" ++
    ", ".intercalate s.captures ++ "]" ++ (if s.retain then " retain" else "") ++
    (if s.disableWrite then " disable_write" else "") ++ "\n"

end RuleSummary

namespace Report

/-- What is said about where records go. -/
def sinkText : Option InfluxSettings → String
  | some s => "influxdb " ++ s.url ++ " (db=" ++ s.database ++ ")"
  | none => "log"

/-- The report about a configuration. -/
def ofConfig (c : Config) : Report :=
  let rules := RuleSet.ofEntries c.ruleEntries
  { lead := c.closedPrefix
    sink := sinkText c.influx
    configured := c.ruleEntries.length
    valid := rules.size
    skipped := c.ruleEntries.length - rules.size
    subscriptions := (rules.subscriptions.filter Filter.isValid).map (c.closedPrefix ++ ·)
    rules := rules.rules.map RuleSummary.ofRule }

/-- The members of a report as a document. -/
def members (r : Report) : List (String × Json) :=
  [("prefix", .text r.lead), ("sink", .text r.sink), ("configured_rules", .ofNat r.configured),
    ("valid_rules", .ofNat r.valid), ("skipped_rules", .ofNat r.skipped),
    ("subscriptions", .ofTexts r.subscriptions),
    ("rules", .array (r.rules.map RuleSummary.toJson))]

/-- The text of a report for people to read. -/
def lines (r : Report) : String :=
  "Sink: " ++ r.sink ++ "\nSubscriptions:\n" ++
    String.join (r.subscriptions.map fun s => "  " ++ s ++ "\n") ++ "Rules:\n" ++
    String.join (r.rules.map RuleSummary.line)

/-- The text of a report. -/
def render (r : Report) : OutputFormat → String
  | .text => r.lines
  | .json => (Json.object r.members).pretty
  | .yaml => Yaml.renderObject r.members

/-- How many rules there are. -/
def counts (r : Report) : String :=
  toString r.configured ++ " rules (" ++ toString r.valid ++ " valid, " ++ toString r.skipped ++
    " skipped)"

/-- What is said if a configuration can be used. -/
def validation (r : Report) : OutputFormat → String
  | .text => "Configuration is valid: " ++ r.counts ++ "\n"
  | .json => r.render .json
  | .yaml => r.render .yaml

/-- What is said about a configuration that is only looked at. -/
def dryRun (r : Report) : OutputFormat → String
  | .text => r.lines ++ "Dry run completed: " ++ r.counts ++ "\n"
  | .json => r.render .json
  | .yaml => r.render .yaml

end Report

end TopicBridge
