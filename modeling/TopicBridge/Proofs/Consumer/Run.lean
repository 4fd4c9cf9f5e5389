import Mathlib.Algebra.Ring.Nat
import TopicBridge.Consumer
import TopicBridge.Proofs.Consumer.Calls

/-! # Runs of the consumer

A run processes the messages in front of the first shutdown one after the other. A message of which
a write is torn down is lost from there on, and the next one is processed as ever. -/

namespace TopicBridge.Consumer

/-- The messages in front of the first shutdown. -/
def pending : List Item → List Message
  | [] => []
  | .shutdown :: _ => []
  | .message m :: items => m :: pending items

theorem pending_spec (items : List Item) :
    ∃ rest, items = (pending items).map .message ++ rest ∧
      (rest = [] ∨ ∃ others, rest = .shutdown :: others) := by
  induction items with
  | nil => exact ⟨[], rfl, .inl rfl⟩
  | cons item items ih =>
      cases item with
      | shutdown => exact ⟨.shutdown :: items, rfl, .inr ⟨items, rfl⟩⟩
      | message m =>
          obtain ⟨rest, hitems, hrest⟩ := ih
          exact ⟨rest, congrArg (.message m :: ·) hitems, hrest⟩

section
variable {σ : Type} (now : Nat) (rules : RuleSet) (sink : Sink σ)

/-- Messages that are processed one after the other, each with the state in which it finds the
sink. -/
def encounters : List Message → σ → List (Message × σ)
  | [], _ => []
  | m :: ms, s => (m, s) :: encounters ms (rules.process sink m s).state

/-- The state of the sink after messages that are processed one after the other. -/
def stateAfter (ms : List Message) (s : σ) : σ :=
  ms.foldl (fun s m => (rules.process sink m s).state) s

/-- The calls of the sink for a message. -/
def callsFor (m : Message) (s : σ) : List Call := sink.calls s (writable (rules.dispatch m))

/-! ## One message -/

theorem state_handle (m : Message) (s : σ) (stats : Stats) :
    (handle now rules sink m s stats).state = (rules.process sink m s).state := by
  rw [RuleSet.process_eq]
  rfl

theorem countRules_eq (os : List (Rule × WriteOutcome)) (stats : Stats) :
    ∃ counts, stats.countRules os = { stats with rules := counts } := by
  induction os generalizing stats with
  | nil => exact ⟨stats.rules, rfl⟩
  | cons o os ih =>
      obtain ⟨rule, o⟩ := o
      rw [Stats.countRules, List.foldl_cons]
      simp only
      split
      · exact ih stats
      · obtain ⟨counts, hcounts⟩ := ih (stats.countRule rule.topic (o == .failed))
        exact ⟨counts, hcounts⟩

/-- Beside the counts of topic patterns, a message counts as its processing comes out. -/
theorem stats_handle (m : Message) (s : σ) (stats : Stats) :
    ∃ counts, (handle now rules sink m s stats).stats =
      let counted := stats.countReceived.countDispatch now (rules.report m)
      { (match (rules.process sink m s).summary with
          | .ok w => counted.countWrites w
          | .error _ => counted.countError) with rules := counts } := by
  have hdelivery : (handle now rules sink m s stats).stats =
      countDelivery (sink.deliver m.topic s (rules.dispatch m))
        (stats.countReceived.countDispatch now (rules.report m)) := rfl
  obtain ⟨counts, hcounts⟩ := countRules_eq (sink.deliver m.topic s (rules.dispatch m)).outcomes
    (stats.countReceived.countDispatch now (rules.report m))
  refine ⟨counts, ?_⟩
  rw [hdelivery, countDelivery, hcounts, RuleSet.process_eq, Delivery.toProcessed]
  cases (sink.deliver m.topic s (rules.dispatch m)).broken <;> rfl

/-- What a message adds to a counter of writes. -/
def writes (count : WriteSummary → Nat) (m : Message) (s : σ) : Nat :=
  match (rules.process sink m s).summary with
  | .ok w => count w
  | .error _ => 0

/-- A write of a message is torn down. -/
def breaks (m : Message) (s : σ) : Bool := (callsFor rules sink m s).any (·.answer.isBroken)

theorem breaks_iff (m : Message) (s : σ) :
    breaks rules sink m s = true ↔ ∃ reason, (rules.process sink m s).summary = .error reason := by
  rw [breaks, callsFor, ← sink.isSome_broken_deliver m.topic, RuleSet.process_eq,
    Delivery.toProcessed]
  cases (sink.deliver m.topic s (rules.dispatch m)).broken <;> simp

/-! ## Counters -/

theorem sum_ite_eq_countP (p : Message → σ → Bool) (es : List (Message × σ)) :
    (es.map fun (m, s) => if p m s then 1 else 0).sum = es.countP fun (m, s) => p m s := by
  induction es with
  | nil => rfl
  | cons e es ih =>
      rw [List.map_cons, List.sum_cons, ih, List.countP_cons, Nat.add_comm]

/-- A counter grows with each message by an amount that depends on nothing that was counted
before. -/
def Grows (counter : Stats → UInt64) (amount : Message → σ → Nat) : Prop :=
  ∀ m s stats, counter (handle now rules sink m s stats).stats =
    counter stats + .ofNat (amount m s)

variable {now rules sink}

theorem Grows.consume {counter : Stats → UInt64} {amount : Message → σ → Nat}
    (h : Grows now rules sink counter amount) (items : List Item) (s : σ) (stats : Stats) :
    counter (consume now rules sink items s stats).stats =
      counter stats + .ofNat
        ((encounters rules sink (pending items) s).map fun (m, s) => amount m s).sum := by
  induction items generalizing s stats with
  | nil => simp [Consumer.consume, pending, encounters]
  | cons item items ih =>
      cases item with
      | shutdown => simp [Consumer.consume, pending, encounters]
      | message m =>
          simp only [Consumer.consume, pending, encounters, List.map_cons, List.sum_cons]
          rw [ih, h m s stats, state_handle, UInt64.ofNat_add, UInt64.add_assoc]

theorem grows_received : Grows now rules sink (·.received) fun _ _ => 1 := by
  intro m s stats
  obtain ⟨counts, hstats⟩ := stats_handle now rules sink m s stats
  rw [hstats]
  cases (rules.process sink m s).summary <;> rfl

theorem grows_errors :
    Grows now rules sink (·.errors) fun m s => if breaks rules sink m s then 1 else 0 := by
  intro m s stats
  obtain ⟨counts, hstats⟩ := stats_handle now rules sink m s stats
  rw [hstats]
  cases hsummary : (rules.process sink m s).summary with
  | error reason =>
      simp only [if_pos ((breaks_iff rules sink m s).mpr ⟨reason, hsummary⟩)]
      rfl
  | ok w =>
      have hwhole : ¬ breaks rules sink m s = true := by
        rw [breaks_iff, hsummary]
        simp
      simp only [if_neg hwhole]
      exact (UInt64.add_zero stats.errors).symm

/-- A counter of outcomes grows with the dispatch alone, whatever the sink does. -/
theorem grows_dispatch {counter : Stats → UInt64} {count : DispatchReport → Nat}
    (hdispatch : ∀ (stats : Stats) r, counter (stats.countReceived.countDispatch now r) =
      counter stats + .ofNat (count r) := by intros; rfl)
    (hwrites : ∀ (stats : Stats) w, counter (stats.countWrites w) = counter stats := by
      intros; rfl)
    (herror : ∀ stats : Stats, counter stats.countError = counter stats := by intros; rfl)
    (hrules : ∀ (stats : Stats) counts, counter { stats with rules := counts } = counter stats := by
      intros; rfl) :
    Grows now rules sink counter fun m _ => count (rules.report m) := by
  intro m s stats
  obtain ⟨counts, hstats⟩ := stats_handle now rules sink m s stats
  rw [hstats, hrules, ← hdispatch]
  cases (rules.process sink m s).summary with
  | ok w => exact hwrites _ w
  | error reason => exact herror _

/-- A counter of writes grows by what processing the message writes, unless a write is torn
down. -/
theorem grows_writes {counter : Stats → UInt64} {count : WriteSummary → Nat}
    (hdispatch : ∀ (stats : Stats) r, counter (stats.countReceived.countDispatch now r) =
      counter stats := by intros; rfl)
    (hwrites : ∀ (stats : Stats) w, counter (stats.countWrites w) =
      counter stats + .ofNat (count w) := by intros; rfl)
    (herror : ∀ stats : Stats, counter stats.countError = counter stats := by intros; rfl)
    (hrules : ∀ (stats : Stats) counts, counter { stats with rules := counts } = counter stats := by
      intros; rfl) :
    Grows now rules sink counter (writes rules sink count) := by
  intro m s stats
  obtain ⟨counts, hstats⟩ := stats_handle now rules sink m s stats
  rw [hstats, hrules, writes]
  cases (rules.process sink m s).summary with
  | ok w => simp only [hwrites, hdispatch]
  | error reason => simp [herror, hdispatch]

/-! ## Runs -/

theorem state_consume (items : List Item) (s : σ) (stats : Stats) :
    (consume now rules sink items s stats).state = stateAfter rules sink (pending items) s := by
  induction items generalizing s stats with
  | nil => rfl
  | cons item items ih =>
      cases item with
      | shutdown => rfl
      | message m => simp only [consume, pending, stateAfter, List.foldl_cons, ih, state_handle]

theorem map_fst_encounters (ms : List Message) (s : σ) :
    (encounters rules sink ms s).map (·.1) = ms := by
  induction ms generalizing s with
  | nil => rfl
  | cons m ms ih => rw [encounters, List.map_cons, ih]

/-- Remembering calls changes nothing else about a message. -/
theorem handle_recording (m : Message) (s : σ) (log : List Call) (stats : Stats) :
    handle now rules sink.recording m (s, log) stats =
      let h := handle now rules sink m s stats
      ⟨(h.state, log ++ callsFor rules sink m s), h.stats, h.events⟩ := by
  simp only [handle, sink.deliver_recording]
  rfl

theorem process_recording (m : Message) (s : σ) (log : List Call) :
    rules.process sink.recording m (s, log) =
      let p := rules.process sink m s
      ⟨p.summary, p.events, (p.state, log ++ callsFor rules sink m s)⟩ := by
  simp only [RuleSet.process_eq, sink.deliver_recording]
  rfl

theorem consume_recording (items : List Item) (s : σ) (log : List Call) (stats : Stats) :
    consume now rules sink.recording items (s, log) stats =
      let c := consume now rules sink items s stats
      ⟨(c.state, log ++ (encounters rules sink (pending items) s).flatMap fun (m, s) =>
        callsFor rules sink m s), c.stats, c.events⟩ := by
  induction items generalizing s log stats with
  | nil => simp [consume, pending, encounters]
  | cons item items ih =>
      cases item with
      | shutdown => simp [consume, pending, encounters]
      | message m =>
          simp only [consume, pending, encounters, handle_recording, ih, List.flatMap_cons,
            state_handle, List.append_assoc]

theorem pending_append (ms : List Message) (items : List Item) :
    pending (ms.map .message ++ items) = ms ++ pending items := by
  induction ms with
  | nil => rfl
  | cons m ms ih => rw [List.map_cons, List.cons_append, pending, ih, List.cons_append]

theorem encounters_append (ms ns : List Message) (s : σ) :
    encounters rules sink (ms ++ ns) s =
      encounters rules sink ms s ++ encounters rules sink ns (stateAfter rules sink ms s) := by
  induction ms generalizing s with
  | nil => rfl
  | cons m ms ih =>
      rw [List.cons_append, encounters, ih, encounters, List.cons_append, stateAfter, stateAfter,
        List.foldl_cons]

end

/-- Handling a message is processing it, with the counters that go with it. -/
structure HandleSpec {σ : Type} (now : Nat) (rules : RuleSet) (sink : Sink σ) (m : Message) (s : σ)
    (before : Stats) : Prop where
  state : (handle now rules sink m s before).state = (rules.process sink m s).state
  whole : ∀ w, (rules.process sink m s).summary = .ok w →
    let after := (handle now rules sink m s before).stats
    after.written = before.written + .ofNat w.written ∧
      after.writeFailures = before.writeFailures + .ofNat w.failed ∧
      after.suppressed = before.suppressed + .ofNat w.suppressed ∧ after.errors = before.errors
  broken : ∀ reason, (rules.process sink m s).summary = .error reason →
    let after := (handle now rules sink m s before).stats
    after.written = before.written ∧ after.writeFailures = before.writeFailures ∧
      after.suppressed = before.suppressed ∧ after.errors = before.errors + 1

theorem handle_spec {σ : Type} (now : Nat) (rules : RuleSet) (sink : Sink σ) (m : Message) (s : σ)
    (before : Stats) : HandleSpec now rules sink m s before := by
  obtain ⟨counts, hstats⟩ := stats_handle now rules sink m s before
  refine ⟨state_handle now rules sink m s before, ?_, ?_⟩
  · intro w hw
    rw [hstats, hw]
    exact ⟨rfl, rfl, rfl, rfl⟩
  · intro reason hreason
    rw [hstats, hreason]
    exact ⟨rfl, rfl, rfl, rfl⟩

/-- What a run counts. What it dispatches counts the same whatever the sink does. -/
structure CountSpec {σ : Type} (rules : RuleSet) (sink : Sink σ) (es : List (Message × σ))
    (before after : Stats) : Prop where
  received : after.received = before.received + .ofNat es.length
  errors : after.errors = before.errors + .ofNat (es.countP fun (m, s) => breaks rules sink m s)
  written : after.written =
    before.written + .ofNat (es.map fun (m, s) => writes rules sink (·.written) m s).sum
  writeFailures : after.writeFailures =
    before.writeFailures + .ofNat (es.map fun (m, s) => writes rules sink (·.failed) m s).sum
  suppressed : after.suppressed =
    before.suppressed + .ofNat (es.map fun (m, s) => writes rules sink (·.suppressed) m s).sum
  records : after.records =
    before.records + .ofNat (es.map fun (m, _) => (rules.report m).records).sum
  rejected : after.rejected =
    before.rejected + .ofNat (es.map fun (m, _) => (rules.report m).rejected).sum
  skippedRetained : after.skippedRetained =
    before.skippedRetained + .ofNat (es.map fun (m, _) => (rules.report m).skippedRetained).sum
  buildFailures : after.buildFailures =
    before.buildFailures + .ofNat (es.map fun (m, _) => (rules.report m).failed).sum

theorem consume_counts {σ : Type} (now : Nat) (rules : RuleSet) (sink : Sink σ) (items : List Item)
    (s : σ) (stats : Stats) :
    CountSpec rules sink (encounters rules sink (pending items) s) stats
      (consume now rules sink items s stats).stats where
  received := by
    have h := Grows.consume (@grows_received σ now rules sink) items s stats
    simpa [List.map_const'] using h
  errors := by
    have h := Grows.consume (@grows_errors σ now rules sink) items s stats
    rwa [sum_ite_eq_countP] at h
  written := Grows.consume grows_writes items s stats
  writeFailures := Grows.consume grows_writes items s stats
  suppressed := Grows.consume grows_writes items s stats
  records := Grows.consume grows_dispatch items s stats
  rejected := Grows.consume grows_dispatch items s stats
  skippedRetained := Grows.consume grows_dispatch items s stats
  buildFailures := Grows.consume grows_dispatch items s stats

/-- A run processes the messages in front of the first shutdown one after the other. -/
structure RunSpec {σ : Type} (now : Nat) (rules : RuleSet) (sink : Sink σ) (items : List Item)
    (s : σ) (stats : Stats) : Prop where
  /-- What is handled stands in front of the first shutdown, and nothing else does. -/
  front : ∃ rest, items = (pending items).map .message ++ rest ∧
    (rest = [] ∨ ∃ others, rest = .shutdown :: others)
  inOrder : (encounters rules sink (pending items) s).map (·.1) = pending items
  state : (run now rules sink items s stats).state = stateAfter rules sink (pending items) s
  /-- Remembering the calls changes nothing, and these are the calls. -/
  calls : ∀ log, run now rules sink.recording items (s, log) stats =
    let r := run now rules sink items s stats
    ⟨(r.state, log ++ (encounters rules sink (pending items) s).flatMap fun (m, s) =>
      callsFor rules sink m s), r.stats, r.events⟩
  cut : ∀ e ∈ encounters rules sink (pending items) s,
    Sink.CutSpec (writable (rules.dispatch e.1)) (callsFor rules sink e.1 e.2)
  torn : ∀ e ∈ encounters rules sink (pending items) s, breaks rules sink e.1 e.2 = true ↔
    ∃ reason, (rules.process sink e.1 e.2).summary = .error reason
  handled : ∀ e ∈ encounters rules sink (pending items) s, ∀ before,
    HandleSpec now rules sink e.1 e.2 before
  /-- Processing a message by itself makes the same calls. -/
  processCalls : ∀ e ∈ encounters rules sink (pending items) s, ∀ log,
    rules.process sink.recording e.1 (e.2, log) =
      let p := rules.process sink e.1 e.2
      ⟨p.summary, p.events, (p.state, log ++ callsFor rules sink e.1 e.2)⟩
  counts : CountSpec rules sink (encounters rules sink (pending items) s) stats
    (run now rules sink items s stats).stats
  /-- Counters that start at zero and do not wrap around are the numbers. -/
  fresh : stats = .zero → (pending items).length < 2 ^ 64 →
    let after := (run now rules sink items s stats).stats
    after.received.toNat = (pending items).length ∧
      after.errors.toNat = (encounters rules sink (pending items) s).countP fun (m, s) =>
        breaks rules sink m s
  /-- All that a message leaves to the next ones is the state of the sink. -/
  resumes : ∀ (earlier : List Message) (later : List Item), items = earlier.map .message ++ later →
    let mid := stateAfter rules sink earlier s
    (run now rules sink items s stats).state = (run now rules sink later mid .zero).state ∧
      encounters rules sink (pending items) s =
        encounters rules sink earlier s ++ encounters rules sink (pending later) mid

theorem run_spec {σ : Type} (now : Nat) (rules : RuleSet) (sink : Sink σ) (items : List Item)
    (s : σ) (stats : Stats) : RunSpec now rules sink items s stats := by
  refine ⟨pending_spec items, map_fst_encounters _ _, state_consume items s stats, ?_,
    fun e _ => sink.calls_spec e.2 _, fun e _ => breaks_iff rules sink e.1 e.2,
    fun e _ => handle_spec now rules sink e.1 e.2, fun e _ => process_recording e.1 e.2,
    consume_counts now rules sink items s stats, ?_, ?_⟩
  · intro log
    simp only [run, consume_recording]
  · intro hzero hlength
    subst hzero
    have hcounts := consume_counts now rules sink items s .zero
    have hes : (encounters rules sink (pending items) s).length = (pending items).length := by
      rw [← List.length_map (·.1), map_fst_encounters]
    have hbroken : (encounters rules sink (pending items) s).countP
        (fun (m, s) => breaks rules sink m s) ≤ (pending items).length :=
      hes ▸ List.countP_le_length
    constructor
    · rw [run, hcounts.received, hes, show Stats.zero.received = 0 from rfl, UInt64.zero_add,
        UInt64.toNat_ofNat_of_lt' hlength]
    · rw [run, hcounts.errors, show Stats.zero.errors = 0 from rfl, UInt64.zero_add,
        UInt64.toNat_ofNat_of_lt' (Nat.lt_of_le_of_lt hbroken hlength)]
  · rintro earlier later rfl
    constructor
    · simp only [run, state_consume, pending_append, stateAfter, List.foldl_append]
    · rw [pending_append, encounters_append]

end TopicBridge.Consumer
