import TopicBridge.Stats

/-! # The consumer

Takes messages out of the queue in order and finishes each one, dispatching and writing, before the
next. A write that is torn down costs the rest of its message and nothing else. The consumer ends at
a shutdown entry, or at the end of the queue when nobody can add to it.
-/

namespace TopicBridge

/-- Where a consumer stands, and what it told on the way. -/
structure Consumed (σ : Type) where
  state : σ
  stats : Stats
  events : List Event

namespace Consumer

variable {σ : Type} (now : Nat) (rules : RuleSet) (sink : Sink σ)

/-- Counts what became of the records of a message. The writes of a message that was torn down are
only counted for their topic patterns. -/
def countDelivery (d : Delivery σ) (s : Stats) : Stats :=
  let s := s.countRules d.outcomes
  if d.broken.isSome then s.countError else s.countWrites d.summary

/-- What is told about a message that was torn down. -/
def abortEvents (topic : String) : Option String → List Event
  | some reason => [.messageAborted topic reason]
  | none => []

/-- Dispatches a message and writes its records. -/
def handle (m : Message) (s : σ) (stats : Stats) : Consumed σ :=
  let outcomes := rules.outcomes m
  let d := sink.deliver m.topic s (RuleSet.recordsOf outcomes)
  { state := d.state
    stats :=
      countDelivery d (stats.countReceived.countDispatch now (.ofOutcomes (outcomes.map (·.2))))
    events :=
      .received m :: RuleSet.outcomeEvents m outcomes ++ d.events ++ abortEvents m.topic d.broken }

/-- Works off the entries of a queue. -/
def consume : List Item → σ → Stats → Consumed σ
  | [], s, stats => ⟨s, stats, []⟩
  | .shutdown :: _, s, stats => ⟨s, stats, [.shutdownRequested]⟩
  | .message m :: rest, s, stats =>
    let first := handle now rules sink m s stats
    let others := consume rest first.state first.stats
    { others with events := first.events ++ others.events }

/-- Runs from start to end. -/
def run (items : List Item) (s : σ) (stats : Stats) : Consumed σ :=
  let done := consume now rules sink items s stats
  { done with
    events := .consumerStarted rules.size :: done.events ++
      [.consumerStopped done.stats.received.toNat] }

end Consumer

end TopicBridge
