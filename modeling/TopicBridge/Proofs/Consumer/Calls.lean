import TopicBridge.Proofs.Consumer.Processing

/-! # What a sink is handed

A sink that remembers its calls behaves as the sink does. The records of a message reach it in
order, up to the first whose write is torn down. -/

namespace TopicBridge

/-- Whether a write was torn down. -/
def Answer.isBroken : Answer → Bool
  | broke _ => true
  | _ => false

/-- A record that a sink was handed, and its answer. -/
structure Call where
  record : Record
  answer : Answer
  deriving DecidableEq, Repr

/-- The records that are to be written. -/
def writable (ds : List Dispatched) : List Record :=
  (ds.filter fun d => !d.rule.disableWrite).map (·.record)

namespace Sink

variable {σ : Type} (sink : Sink σ)

/-- The sink that also remembers its calls. -/
def recording : Sink (σ × List Call) where
  write s r :=
    let reply := sink.write s.1 r
    ⟨reply.answer, reply.events, (reply.state, s.2 ++ [⟨r, reply.answer⟩])⟩

/-- The calls of a sink for records that are written one after the other. -/
def calls : σ → List Record → List Call
  | _, [] => []
  | s, r :: rs =>
    let reply := sink.write s r
    ⟨r, reply.answer⟩ :: if reply.answer.isBroken then [] else calls reply.state rs

/-- Calls follow records up to the first call that is torn down, and all of them if none is. -/
structure CutSpec (rs : List Record) (cs : List Call) : Prop where
  inOrder : cs.map (·.record) <+: rs
  first : ∀ c ∈ cs.dropLast, c.answer.isBroken = false
  whole : (∀ c ∈ cs, c.answer.isBroken = false) → cs.map (·.record) = rs

theorem calls_spec (s : σ) (rs : List Record) : CutSpec rs (sink.calls s rs) := by
  induction rs generalizing s with
  | nil => exact ⟨List.prefix_refl [], by simp [calls], fun _ => rfl⟩
  | cons r rs ih =>
      simp only [calls]
      by_cases hbroken : (sink.write s r).answer.isBroken = true
      · rw [if_pos hbroken]
        refine ⟨by simp, by simp, fun h => ?_⟩
        rw [h _ List.mem_cons_self] at hbroken
        cases hbroken
      · obtain ⟨hleading, hfirst, hwhole⟩ := ih (sink.write s r).state
        rw [if_neg hbroken]
        refine ⟨by simpa using hleading, ?_, ?_⟩
        · intro c hc
          cases hcs : sink.calls (sink.write s r).state rs with
          | nil => simp [hcs] at hc
          | cons d cs =>
              rw [hcs, List.dropLast_cons_cons, ← hcs] at hc
              rcases List.mem_cons.mp hc with rfl | hc
              · simpa using hbroken
              · exact hfirst c hc
        · intro hnone
          rw [List.map_cons, hwhole fun c hc => hnone c (List.mem_cons_of_mem _ hc)]

theorem writeOne_recording (topic : String) (s : σ) (log : List Call) (d : Dispatched) :
    sink.recording.writeOne topic (s, log) d =
      let first := sink.writeOne topic s d
      ⟨first.outcome, first.events, (first.state,
        log ++ if d.rule.disableWrite then []
          else [⟨d.record, (sink.write s d.record).answer⟩])⟩ := by
  rw [writeOne, writeOne]
  split
  · simp
  · simp only [recording]
    cases (sink.write s d.record).answer <;> rfl

theorem calls_writable_cons (topic : String) (s : σ) (d : Dispatched) (ds : List Dispatched) :
    sink.calls s (writable (d :: ds)) =
      (if d.rule.disableWrite then [] else [⟨d.record, (sink.write s d.record).answer⟩]) ++
        match (sink.writeOne topic s d).outcome with
        | .ok _ => sink.calls (sink.writeOne topic s d).state (writable ds)
        | .error _ => [] := by
  rw [writeOne]
  by_cases hd : d.rule.disableWrite = true
  · simp [hd, writable]
  · have hwritable : writable (d :: ds) = d.record :: writable ds := by simp [hd, writable]
    rw [hwritable, if_neg hd, if_neg hd, calls]
    simp only
    cases (sink.write s d.record).answer <;> rfl

/-- Remembering calls changes nothing else, and what is remembered are the calls. -/
theorem deliver_recording (topic : String) (s : σ) (log : List Call) (ds : List Dispatched) :
    sink.recording.deliver topic (s, log) ds =
      let d := sink.deliver topic s ds
      ⟨d.outcomes, d.broken, d.events, (d.state, log ++ sink.calls s (writable ds))⟩ := by
  induction ds generalizing s log with
  | nil => simp [deliver, writable, calls]
  | cons d ds ih =>
      rw [deliver_cons, deliver_cons, writeOne_recording, sink.calls_writable_cons topic]
      simp only
      cases (sink.writeOne topic s d).outcome with
      | error reason => simp
      | ok o =>
          simp only
          rw [ih]
          simp [Delivery.after]

theorem isSome_broken_deliver (topic : String) (s : σ) (ds : List Dispatched) :
    (sink.deliver topic s ds).broken.isSome =
      (sink.calls s (writable ds)).any (·.answer.isBroken) := by
  induction ds generalizing s with
  | nil => rfl
  | cons d ds ih =>
      rw [deliver_cons, sink.calls_writable_cons topic, List.any_append]
      have hfirst : (if d.rule.disableWrite then []
            else [(⟨d.record, (sink.write s d.record).answer⟩ : Call)]).any (·.answer.isBroken) =
          match (sink.writeOne topic s d).outcome with
          | .ok _ => false
          | .error _ => true := by
        rw [writeOne]
        split
        · rfl
        · simp only
          cases (sink.write s d.record).answer <;> rfl
      rw [hfirst]
      simp only
      cases (sink.writeOne topic s d).outcome with
      | error reason => rfl
      | ok o =>
          simp only [Bool.false_or]
          rw [← ih]
          rfl

end Sink

end TopicBridge
