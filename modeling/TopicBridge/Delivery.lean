import TopicBridge.Dispatch
import TopicBridge.Sink.Basic

/-! # Delivering records

The records of a message are handed to a sink in order. A refused record does not keep the next ones
back, a write that is torn down does. Records of rules that are not to be written are left out.
-/

namespace TopicBridge

/-- What became of a record. -/
inductive WriteOutcome
  | written
  | failed
  /-- The rule is not to be written. -/
  | suppressed
  deriving DecidableEq, Repr

/-- How often each outcome of a write came up. -/
structure WriteSummary where
  written : Nat
  failed : Nat
  suppressed : Nat
  deriving DecidableEq, Repr

/-- Counts outcomes of writes. -/
def WriteSummary.ofOutcomes (os : List WriteOutcome) : WriteSummary where
  written := os.count .written
  failed := os.count .failed
  suppressed := os.count .suppressed

/-- What became of the records of a message. -/
structure Delivery (σ : Type) where
  /-- The writes that came to an end, with their rules. -/
  outcomes : List (Rule × WriteOutcome)
  /-- Why a write was torn down, if one was. -/
  broken : Option String
  events : List Event
  state : σ

namespace Delivery

/-- Puts a write in front. -/
def after {σ : Type} (d : Delivery σ) (rule : Rule) (o : WriteOutcome) (events : List Event) :
    Delivery σ :=
  { d with outcomes := (rule, o) :: d.outcomes, events := events ++ d.events }

/-- The counts of the writes that came to an end. -/
def summary {σ : Type} (d : Delivery σ) : WriteSummary := .ofOutcomes (d.outcomes.map (·.2))

end Delivery

/-- Hands the records of a message to a sink. -/
def Sink.deliver {σ : Type} (sink : Sink σ) (topic : String) : σ → List Dispatched → Delivery σ
  | s, [] => ⟨[], none, [], s⟩
  | s, d :: ds =>
    if d.rule.disableWrite then
      (sink.deliver topic s ds).after d.rule .suppressed [.notWriting d.rule.topic topic]
    else
      let reply := sink.write s d.record
      match reply.answer with
      | .accepted => (sink.deliver topic reply.state ds).after d.rule .written reply.events
      | .refused cause =>
        (sink.deliver topic reply.state ds).after d.rule .failed
          (reply.events ++ [.writeFailed d.rule.topic topic cause])
      | .broke reason => ⟨[], some reason, reply.events, reply.state⟩

end TopicBridge
