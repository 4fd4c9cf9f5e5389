import TopicBridge.Message
import TopicBridge.Record.Fault
import TopicBridge.Sink.Fault
import TopicBridge.Source.Fault

/-! # Events

What the bridge tells about its work. Each event has a level, a message and named details.
-/

namespace TopicBridge

/-- How much an event matters. -/
inductive EventLevel
  | trace
  | debug
  | info
  | warn
  | error
  deriving DecidableEq, Repr

/-- The name of a level. -/
def EventLevel.name : EventLevel → String
  | trace => "TRACE"
  | debug => "DEBUG"
  | info => "INFO"
  | warn => "WARN"
  | error => "ERROR"

/-- Something that happens while rules are bound, messages handled and records written. -/
inductive Event
  /-- An entry of the configuration does not become a rule. -/
  | ruleSkipped (index : Nat)
  /-- A rule has settings for a token that its pattern does not capture. -/
  | tokenNotCaptured (rule token : String)
  /-- A rule reads payloads as documents and does not say which part. -/
  | jsonWithoutPath (rule : String)
  /-- A rule names a kind of payloads that there is not. -/
  | unknownKind (rule kind : String)
  | captureRejected (token text rule : String)
  | topicRejected (rule topic : String)
  /-- A payload is no document and nothing is taken out of it. -/
  | extractionSkipped
  /-- A payload is no document and is taken as it is. -/
  | rawTextUsed
  | recordFailed (rule topic : String) (cause : RecordFault)
  | noMeasurement (rule topic : String)
  | handledTimes (topic : String) (count : Nat)
  | notWriting (rule topic : String)
  | writeFailed (rule topic : String) (cause : SinkFault)
  /-- A record is written to the log. -/
  | recorded (line : String)
  | consumerStarted (rules : Nat)
  | received (message : Message)
  | messageAborted (topic reason : String)
  | shutdownRequested
  | consumerStopped (received : Nat)
  | subscribing (filter : String)
  | cannotSubscribe (filter : String) (cause : SourceFault)
  | noSubscription (topic : String)
  | publishHandled (topic : String) (accepted : Bool)
  | requestFailed (status : String) (cause : SourceFault)
  | sendingLines
  | retrying (attempt limit delay : Nat)
  deriving DecidableEq, Repr

namespace Event

/-- How much an event matters. -/
def level : Event → EventLevel
  | captureRejected .. => .trace
  | topicRejected .. => .debug
  | extractionSkipped => .debug
  | rawTextUsed => .debug
  | received _ => .debug
  | noSubscription _ => .debug
  | publishHandled .. => .debug
  | sendingLines => .debug
  | notWriting .. => .info
  | recorded _ => .info
  | consumerStarted _ => .info
  | shutdownRequested => .info
  | consumerStopped _ => .info
  | subscribing _ => .info
  | tokenNotCaptured .. => .warn
  | jsonWithoutPath _ => .warn
  | unknownKind .. => .warn
  | handledTimes .. => .warn
  | retrying .. => .warn
  | ruleSkipped _ => .error
  | recordFailed .. => .error
  | noMeasurement .. => .error
  | writeFailed .. => .error
  | messageAborted .. => .error
  | cannotSubscribe .. => .error
  | requestFailed .. => .error

/-- What happened. -/
def message : Event → String
  | ruleSkipped _ => "Skipping rule"
  | tokenNotCaptured .. => "Token is configured but not captured by the topic pattern"
  | jsonWithoutPath _ => "Payload type json has no json path, conversion will fail"
  | unknownKind .. => "Unknown payload type, conversion will fail"
  | captureRejected .. => "Capture rejected by token rule"
  | topicRejected .. => "Token rule rejected topic"
  | extractionSkipped => "Payload is not JSON, skipping extraction"
  | rawTextUsed => "Payload is not JSON, using raw string"
  | recordFailed .. => "Failed to build record"
  | noMeasurement .. => "No measurement configured for rule"
  | handledTimes .. => "Message handled multiple times"
  | notWriting .. => "Not writing"
  | writeFailed .. => "Failed to write record"
  | recorded _ => "Record"
  | consumerStarted _ => "Queue consumer started"
  | received _ => "Received message"
  | messageAborted .. => "Failed to process message"
  | shutdownRequested => "Shutdown requested"
  | consumerStopped _ => "Queue consumer stopped"
  | subscribing _ => "Subscribing"
  | cannotSubscribe .. => "Cannot subscribe"
  | noSubscription _ => "No subscription matches topic"
  | publishHandled .. => "Publish handled"
  | requestFailed .. => "Request failed"
  | sendingLines => "Sending InfluxDB write request"
  | retrying .. => "Write failed, retrying"

/-- The truth values as text. -/
def flagText (b : Bool) : String := if b then "true" else "false"

/-- The named details of an event. -/
def details : Event → List (String × String)
  | ruleSkipped index => [("rule_index", toString index)]
  | tokenNotCaptured rule token => [("rule", rule), ("token", token)]
  | jsonWithoutPath rule => [("rule", rule)]
  | unknownKind rule kind => [("rule", rule), ("payload_type", kind)]
  | captureRejected token text rule => [("token", token), ("value", text), ("rule", rule)]
  | topicRejected rule topic => [("rule", rule), ("topic", topic)]
  | extractionSkipped => []
  | rawTextUsed => []
  | recordFailed rule topic cause => [("rule", rule), ("topic", topic), ("error", cause.message)]
  | noMeasurement rule topic => [("rule", rule), ("topic", topic)]
  | handledTimes topic count => [("topic", topic), ("count", toString count)]
  | notWriting rule topic => [("rule", rule), ("topic", topic)]
  | writeFailed rule topic cause => [("rule", rule), ("topic", topic), ("error", cause.message)]
  | recorded line => [("line", line)]
  | consumerStarted rules => [("rules", toString rules)]
  | received m =>
    [("topic", m.topic), ("qos", toString m.qos), ("retain", flagText m.retain),
      ("payload", m.payloadText)]
  | messageAborted topic reason =>
    [("topic", topic), ("error_type", "panic"), ("error", reason)]
  | shutdownRequested => []
  | consumerStopped count => [("received", toString count)]
  | subscribing filter => [("filter", filter)]
  | cannotSubscribe filter cause => [("filter", filter), ("error", cause.message)]
  | noSubscription topic => [("topic", topic)]
  | publishHandled topic accepted => [("topic", topic), ("accepted", flagText accepted)]
  | requestFailed status cause => [("status", status), ("error", cause.message)]
  | sendingLines => []
  | retrying attempt limit delay =>
    [("attempt", toString attempt), ("max", toString limit), ("delay_ms", toString delay)]

end Event

end TopicBridge
