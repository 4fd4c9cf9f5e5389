import TopicBridge.Event

/-! # Sinks

A sink is handed records one at a time and answers each. It may remember what it has seen.
-/

namespace TopicBridge

/-- What a sink answers to a record. -/
inductive Answer
  | accepted
  | refused (cause : SinkFault)
  /-- The write was torn down. -/
  | broke (reason : String)
  deriving DecidableEq, Repr

/-- What a sink does with a record: its answer, what it tells, and what it remembers. -/
structure Reply (σ : Type) where
  answer : Answer
  events : List Event
  state : σ

/-- Something that takes records. -/
structure Sink (σ : Type) where
  write : σ → Record → Reply σ

/-- The sink that only tells about each record. -/
def Sink.log : Sink Unit where
  write _ r :=
    match r.line with
    | .ok line => ⟨.accepted, [.recorded line], ()⟩
    | .error cause => ⟨.refused (.unwritable cause), [], ()⟩

end TopicBridge
