import TopicBridge.Proofs.Consumer.Run

/-! # Totals of writes

The counters of writes are added to behind the last write of a message. They hold what a sink
answered, less its answers for messages that are left before that because a write is torn down. -/

namespace TopicBridge

/-- The outcome that an answer is counted as. -/
def Answer.outcome? : Answer → Option WriteOutcome
  | accepted => some .written
  | refused _ => some .failed
  | broke _ => none

/-- How many calls were answered with an outcome. -/
def answered (o : WriteOutcome) (cs : List Call) : Nat :=
  cs.countP fun c => c.answer.outcome? = some o

theorem answered_append (o : WriteOutcome) (cs ds : List Call) :
    answered o (cs ++ ds) = answered o cs + answered o ds :=
  List.countP_append

/-! ## One message -/

namespace Sink

variable {σ : Type} (sink : Sink σ) (topic : String)

/-- A write that comes to an end was answered with its outcome, unless nothing was written. -/
theorem answered_writeOne (s : σ) (d : Dispatched) {o : WriteOutcome} (ho : o ≠ .suppressed) :
    answered o (if d.rule.disableWrite then [] else [⟨d.record, (sink.write s d.record).answer⟩]) =
      match (sink.writeOne topic s d).outcome with
      | .ok o' => if o' = o then 1 else 0
      | .error _ => 0 := by
  rw [writeOne]
  split
  · simp [answered, ho.symm]
  · simp only [answered, List.countP_singleton, decide_eq_true_eq]
    cases (sink.write s d.record).answer with
    | accepted => simp [Answer.outcome?]
    | refused cause => simp [Answer.outcome?]
    | broke reason => simp [Answer.outcome?]

/-- The writes of a message that came to an end are its calls that were answered, also if a later
one was torn down. -/
theorem count_outcomes_deliver (s : σ) (ds : List Dispatched) {o : WriteOutcome}
    (ho : o ≠ .suppressed) :
    ((sink.deliver topic s ds).outcomes.map (·.2)).count o =
      answered o (sink.calls s (writable ds)) := by
  induction ds generalizing s with
  | nil => rfl
  | cons d ds ih =>
      rw [deliver_cons, sink.calls_writable_cons topic, answered_append,
        sink.answered_writeOne topic s d ho]
      simp only
      cases (sink.writeOne topic s d).outcome with
      | error reason => rfl
      | ok o' =>
          simp only [Delivery.after, List.map_cons, List.count_cons, ih, beq_iff_eq]
          rw [Nat.add_comm]

end Sink

namespace Consumer

variable {σ : Type} (rules : RuleSet) (sink : Sink σ)

/-- A message adds the answers of its calls to the counters, or nothing if a write is torn down. -/
theorem writes_eq {count : WriteSummary → Nat} {o : WriteOutcome} (ho : o ≠ .suppressed)
    (hcount : ∀ os, count (.ofOutcomes os) = os.count o) (m : Message) (s : σ) :
    writes rules sink count m s =
      if breaks rules sink m s then 0 else answered o (callsFor rules sink m s) := by
  have hanswered := sink.count_outcomes_deliver m.topic s (rules.dispatch m) ho
  rw [breaks, callsFor, ← sink.isSome_broken_deliver m.topic, ← hanswered, writes,
    RuleSet.process_eq, Delivery.toProcessed]
  cases (sink.deliver m.topic s (rules.dispatch m)).broken with
  | none => simp [hcount]
  | some reason => simp

/-! ## Runs -/

/-- The calls of a sink for messages. -/
def callsOf (es : List (Message × σ)) : List Call :=
  es.flatMap fun (m, s) => callsFor rules sink m s

/-- The messages of which a write is torn down. -/
def torn (es : List (Message × σ)) : List (Message × σ) :=
  es.filter fun (m, s) => breaks rules sink m s

/-- The answers for all messages are the ones that are counted and the ones for torn messages. -/
theorem sum_writes {count : WriteSummary → Nat} {o : WriteOutcome} (ho : o ≠ .suppressed)
    (hcount : ∀ os, count (.ofOutcomes os) = os.count o) (es : List (Message × σ)) :
    (es.map fun (m, s) => writes rules sink count m s).sum +
        answered o (callsOf rules sink (torn rules sink es)) =
      answered o (callsOf rules sink es) := by
  induction es with
  | nil => rfl
  | cons e es ih =>
      obtain ⟨m, s⟩ := e
      simp only [callsOf, torn] at ih
      simp only [callsOf, torn, List.map_cons, List.sum_cons, List.filter_cons, List.flatMap_cons,
        answered_append]
      rw [← ih, writes_eq rules sink ho hcount]
      by_cases hb : breaks rules sink m s = true
      · simp only [if_pos hb, List.flatMap_cons, answered_append]
        omega
      · simp only [if_neg hb]
        omega

theorem answered_eq_zero_iff (cs : List Call) :
    answered .written cs = 0 ∧ answered .failed cs = 0 ↔ ∀ c ∈ cs, c.answer.isBroken = true := by
  simp only [answered, List.countP_eq_zero, decide_eq_true_eq]
  constructor
  · rintro ⟨hwritten, hfailed⟩ c hc
    cases hanswer : c.answer with
    | accepted => exact absurd (by rw [hanswer]; rfl) (hwritten c hc)
    | refused cause => exact absurd (by rw [hanswer]; rfl) (hfailed c hc)
    | broke reason => rfl
  · intro h
    refine ⟨fun c hc => ?_, fun c hc => ?_⟩ <;>
      cases hanswer : c.answer <;> have hbroken := h c hc <;>
        simp_all [Answer.isBroken, Answer.outcome?]

/-- What the counters of writes say after a run before which nothing was counted. -/
structure TotalsSpec (es : List (Message × σ)) (cs : List Call) (after : Stats) : Prop where
  calls : cs = callsOf rules sink es
  written : after.written.toNat + answered .written (callsOf rules sink (torn rules sink es)) =
    answered .written cs
  writeFailures :
    after.writeFailures.toNat + answered .failed (callsOf rules sink (torn rules sink es)) =
      answered .failed cs
  /-- The counters are right if and only if each write that is torn down is the first one of its
  message. -/
  right : after.written.toNat = answered .written cs ∧
      after.writeFailures.toNat = answered .failed cs ↔
    ∀ e ∈ es, breaks rules sink e.1 e.2 = true →
      ∀ c ∈ callsFor rules sink e.1 e.2, c.answer.isBroken = true

theorem mem_callsOf_torn {es : List (Message × σ)} {c : Call} :
    c ∈ callsOf rules sink (torn rules sink es) ↔
      ∃ e ∈ es, breaks rules sink e.1 e.2 = true ∧ c ∈ callsFor rules sink e.1 e.2 := by
  simp [callsOf, torn, and_assoc]

/-- A counter that starts at zero does not wrap around while all there is to count fits. -/
theorem toNat_counter {counter : UInt64} {n lost total : Nat} (hcounter : counter = 0 + .ofNat n)
    (h : n + lost = total) (hbound : total < 2 ^ 64) : counter.toNat + lost = total := by
  have hn : n < UInt64.size := by
    rw [UInt64.size]
    omega
  rw [hcounter, UInt64.zero_add, UInt64.toNat_ofNat_of_lt' hn, h]

theorem run_totals (now : Nat) (items : List Item) (s : σ)
    (hwritten :
      answered .written (run now rules sink.recording items (s, []) .zero).state.2 < 2 ^ 64)
    (hfailed :
      answered .failed (run now rules sink.recording items (s, []) .zero).state.2 < 2 ^ 64) :
    TotalsSpec rules sink (encounters rules sink (pending items) s)
      (run now rules sink.recording items (s, []) .zero).state.2
      (run now rules sink.recording items (s, []) .zero).stats := by
  have hcounts := consume_counts now rules sink items s .zero
  have hcalls : (run now rules sink.recording items (s, []) .zero).state.2 =
      callsOf rules sink (encounters rules sink (pending items) s) := by
    rw [run, consume_recording]
    rfl
  have hstats : (run now rules sink.recording items (s, []) .zero).stats =
      (consume now rules sink items s .zero).stats := by
    rw [run, consume_recording]
  rw [hcalls] at hwritten hfailed ⊢
  rw [hstats]
  have hw := toNat_counter hcounts.written
    (sum_writes rules sink (o := .written) (by decide) (fun os => rfl) _) hwritten
  have hf := toNat_counter hcounts.writeFailures
    (sum_writes rules sink (o := .failed) (by decide) (fun os => rfl) _) hfailed
  refine ⟨rfl, hw, hf, ?_⟩
  have hlost := answered_eq_zero_iff
    (callsOf rules sink (torn rules sink (encounters rules sink (pending items) s)))
  simp only [mem_callsOf_torn] at hlost
  constructor
  · rintro ⟨hright, hright'⟩ e he hb c hc
    exact hlost.mp ⟨by omega, by omega⟩ c ⟨e, he, hb, hc⟩
  · intro hfirst
    obtain ⟨hzero, hzero'⟩ := hlost.mpr (by
      rintro c ⟨e, he, hb, hc⟩
      exact hfirst e he hb c hc)
    omega

/-! ## A message that is torn -/

/-- The sink that answers by measurement: one is refused, one is torn down, others are taken. -/
def byMeasurement : Sink Unit where
  write _ r :=
    if r.measurement = some "broken" then ⟨.broke "sink exploded", [], ()⟩
    else if r.measurement = some "refused" then ⟨.refused .timedOut, [], ()⟩
    else ⟨.accepted, [], ()⟩

/-- The rule for one topic with a measurement. -/
def measured (name : String) : Rule :=
  { Rule.ofPattern ⟨"a", [.literal "a"], .empty⟩ with
    fields := .ofList [("v", .int 1)]
    measurement := some name }

/-- The run of one message that three rules make records of. -/
def tornRun : Consumed (Unit × List Call) :=
  run 1 (.ofRules [measured "kept", measured "refused", measured "broken"])
    byMeasurement.recording [.message ⟨"a", [], 0, false⟩] ((), []) .zero

theorem run_totals_tornRun :
    answered .written tornRun.state.2 < 2 ^ 64 ∧ answered .failed tornRun.state.2 < 2 ^ 64 ∧
      TotalsSpec (.ofRules [measured "kept", measured "refused", measured "broken"]) byMeasurement
        [(⟨"a", [], 0, false⟩, ())] tornRun.state.2 tornRun.stats := by
  have hwritten : answered .written tornRun.state.2 < 2 ^ 64 := by decide +kernel
  have hfailed : answered .failed tornRun.state.2 < 2 ^ 64 := by decide +kernel
  exact ⟨hwritten, hfailed, run_totals _ byMeasurement 1 [.message ⟨"a", [], 0, false⟩] ()
    hwritten hfailed⟩

/-- A record was taken and one was refused, and neither is counted. -/
theorem written_tornRun_ne_answered :
    tornRun.state.2.map (·.answer) = [.accepted, .refused .timedOut, .broke "sink exploded"] ∧
      tornRun.stats.written.toNat ≠ answered .written tornRun.state.2 ∧
      tornRun.stats.writeFailures.toNat ≠ answered .failed tornRun.state.2 := by
  decide +kernel

end Consumer
end TopicBridge
