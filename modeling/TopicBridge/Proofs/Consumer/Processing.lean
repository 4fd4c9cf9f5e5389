import TopicBridge.Delivery

/-! # Processing a message without the consumer

A message can be processed by itself: its records are written one after the other, and the summary
of the writes is added up on the way. It comes to what delivering the records comes to. -/

namespace TopicBridge

/-- A single write: its outcome, or why it was torn down. -/
structure Attempt (σ : Type) where
  outcome : Except String WriteOutcome
  events : List Event
  state : σ

/-- What processing a message comes to: a summary, or why a write was torn down. -/
structure Processed (σ : Type) where
  summary : Except String WriteSummary
  events : List Event
  state : σ

namespace WriteSummary

/-- No writes. -/
def zero : WriteSummary := ⟨0, 0, 0⟩

/-- Counts one more write. -/
def add (w : WriteSummary) : WriteOutcome → WriteSummary
  | .written => { w with written := w.written + 1 }
  | .failed => { w with failed := w.failed + 1 }
  | .suppressed => { w with suppressed := w.suppressed + 1 }

theorem ofOutcomes_append_singleton (os : List WriteOutcome) (o : WriteOutcome) :
    ofOutcomes (os ++ [o]) = (ofOutcomes os).add o := by
  cases o <;> simp [ofOutcomes, add, List.count_append]

end WriteSummary

namespace Sink

variable {σ : Type} (sink : Sink σ) (topic : String)

/-- Hands a record to a sink unless its rule is not to be written. -/
def writeOne (s : σ) (d : Dispatched) : Attempt σ :=
  if d.rule.disableWrite then ⟨.ok .suppressed, [.notWriting d.rule.topic topic], s⟩
  else
    let reply := sink.write s d.record
    match reply.answer with
    | .accepted => ⟨.ok .written, reply.events, reply.state⟩
    | .refused cause =>
      ⟨.ok .failed, reply.events ++ [.writeFailed d.rule.topic topic cause], reply.state⟩
    | .broke reason => ⟨.error reason, reply.events, reply.state⟩

/-- Hands records to a sink and adds to a summary. -/
def writeRecords : σ → WriteSummary → List Dispatched → Processed σ
  | s, w, [] => ⟨.ok w, [], s⟩
  | s, w, d :: ds =>
    let first := sink.writeOne topic s d
    match first.outcome with
    | .ok o =>
      let others := writeRecords first.state (w.add o) ds
      { others with events := first.events ++ others.events }
    | .error reason => ⟨.error reason, first.events, first.state⟩

theorem deliver_cons (s : σ) (d : Dispatched) (ds : List Dispatched) :
    sink.deliver topic s (d :: ds) =
      let first := sink.writeOne topic s d
      match first.outcome with
      | .ok o => (sink.deliver topic first.state ds).after d.rule o first.events
      | .error reason => ⟨[], some reason, first.events, first.state⟩ := by
  rw [deliver, writeOne]
  split
  · rfl
  · simp only
    cases (sink.write s d.record).answer <;> rfl

end Sink

/-- What a delivery amounts to after some writes with a summary. -/
def Delivery.toProcessed {σ : Type} (d : Delivery σ) (before : List WriteOutcome) :
    Processed σ where
  summary :=
    match d.broken with
    | some reason => .error reason
    | none => .ok (.ofOutcomes (before ++ d.outcomes.map (·.2)))
  events := d.events
  state := d.state

/-- Both loops over the records of a message come to the same. -/
theorem Sink.writeRecords_eq {σ : Type} (sink : Sink σ) (topic : String) (s : σ)
    (before : List WriteOutcome) (ds : List Dispatched) :
    sink.writeRecords topic s (.ofOutcomes before) ds =
      (sink.deliver topic s ds).toProcessed before := by
  induction ds generalizing s before with
  | nil => simp [writeRecords, deliver, Delivery.toProcessed]
  | cons d ds ih =>
      rw [writeRecords, deliver_cons]
      cases hfirst : (sink.writeOne topic s d).outcome with
      | error reason => simp [hfirst, Delivery.toProcessed]
      | ok o =>
          simp only [hfirst]
          rw [← WriteSummary.ofOutcomes_append_singleton, ih]
          simp [Delivery.toProcessed, Delivery.after]

/-- Dispatches a message and writes its records. -/
def RuleSet.process {σ : Type} (rules : RuleSet) (sink : Sink σ) (m : Message) (s : σ) :
    Processed σ :=
  sink.writeRecords m.topic s .zero (rules.dispatch m)

theorem RuleSet.process_eq {σ : Type} (rules : RuleSet) (sink : Sink σ) (m : Message) (s : σ) :
    rules.process sink m s = (sink.deliver m.topic s (rules.dispatch m)).toProcessed [] :=
  sink.writeRecords_eq m.topic s [] (rules.dispatch m)

end TopicBridge
