import TopicBridge.Rule.Group
import TopicBridge.Rule.Recording

/-! # Dispatching messages

A message goes to every rule whose subscription filter selects its topic. Each of these rules has
one outcome, which depends on nothing but the rule and the message.
-/

namespace TopicBridge

/-- What becomes of a message at a rule. -/
inductive Outcome
  /-- The message was kept from earlier and the rule takes none of these. -/
  | skipped
  /-- The rule of a token rejects a captured level. -/
  | rejected (token text rule : String)
  /-- There is no record, and why. -/
  | failed (cause : RecordFault)
  | built (record : Record)
  deriving DecidableEq, Repr

namespace Rule

/-- What becomes of a message at a rule that is asked. -/
def evaluate (rule : Rule) (m : Message) : Outcome :=
  if m.retain && !rule.retain then .skipped
  else
    match rule.pattern.parse m.topic with
    | .rejected token text rule => .rejected token text rule
    | .captured captures =>
      match rule.record m.payload captures with
      | .ok r => .built r
      | .error cause => .failed cause

end Rule

/-- A record and the rule that made it. -/
structure Dispatched where
  rule : Rule
  record : Record
  deriving DecidableEq, Repr

/-- How often each outcome came up. -/
structure DispatchReport where
  records : Nat
  skippedRetained : Nat
  rejected : Nat
  failed : Nat
  deriving DecidableEq, Repr

namespace Outcome

/-- The record of an outcome. -/
def record? : Outcome → Option Record
  | built r => some r
  | _ => none

/-- Whether a message was skipped. -/
def isSkipped : Outcome → Bool
  | skipped => true
  | _ => false

/-- Whether a message was rejected. -/
def isRejected : Outcome → Bool
  | rejected .. => true
  | _ => false

/-- Whether there is no record where one was to be built. -/
def isFailed : Outcome → Bool
  | failed _ => true
  | _ => false

end Outcome

/-- Counts outcomes. -/
def DispatchReport.ofOutcomes (os : List Outcome) : DispatchReport where
  records := (os.filterMap Outcome.record?).length
  skippedRetained := os.countP Outcome.isSkipped
  rejected := os.countP Outcome.isRejected
  failed := os.countP Outcome.isFailed

namespace RuleSet

/-- The rules that a topic is for, group by group. -/
def selected (s : RuleSet) (topic : String) : List Rule :=
  (s.groups.filter fun g => Filter.selects g.normalized topic).flatMap (·.rules)

/-- The rules that are asked about a message, and what becomes of it at each. -/
def outcomes (s : RuleSet) (m : Message) : List (Rule × Outcome) :=
  (s.selected m.topic).map fun rule => (rule, rule.evaluate m)

/-- The records of outcomes with the rules that made them. -/
def recordsOf (os : List (Rule × Outcome)) : List Dispatched :=
  os.filterMap fun (rule, o) => o.record?.map fun record => ⟨rule, record⟩

/-- The records of a message. -/
def dispatch (s : RuleSet) (m : Message) : List Dispatched := recordsOf (s.outcomes m)

/-- The counts of the outcomes of a message. -/
def report (s : RuleSet) (m : Message) : DispatchReport :=
  .ofOutcomes ((s.outcomes m).map (·.2))

end RuleSet

/-! ## Events -/

/-- What is told about a payload that is no document where one is expected. -/
def PayloadUse.events (u : PayloadUse) (bytes : List UInt8) : List Event :=
  match Text.Utf8.decode? bytes with
  | none => []
  | some raw =>
    if (Json.parse? raw).isSome then []
    else
      (if u.extractions.isEmpty then [] else [.extractionSkipped]) ++
        if u.isField && Rule.payloadKind? u == some .json && u.path.isSome then [.rawTextUsed]
        else []

namespace Rule

/-- What is told about the payload of a message. -/
def payloadEvents (rule : Rule) (m : Message) : List Event :=
  match rule.payload with
  | some u => u.events m.payload
  | none => []

/-- What is told about an outcome. -/
def outcomeEvents (rule : Rule) (m : Message) : Outcome → List Event
  | .skipped => []
  | .rejected token text tokenRule =>
    [.captureRejected token text tokenRule, .topicRejected rule.topic m.topic]
  | .failed cause => rule.payloadEvents m ++ [.recordFailed rule.topic m.topic cause]
  | .built record =>
    rule.payloadEvents m ++
      if record.measurement.isNone then [.noMeasurement rule.topic m.topic] else []

end Rule

namespace RuleSet

/-- What is told about outcomes. -/
def outcomeEvents (m : Message) (os : List (Rule × Outcome)) : List Event :=
  let count := (recordsOf os).length
  os.flatMap (fun (rule, o) => rule.outcomeEvents m o) ++
    if 1 < count then [.handledTimes m.topic count] else []

/-- What is told about dispatching a message. -/
def dispatchEvents (s : RuleSet) (m : Message) : List Event := outcomeEvents m (s.outcomes m)

end RuleSet

end TopicBridge
