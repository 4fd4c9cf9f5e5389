import Mathlib.Algebra.BigOperators.Group.Finset.Basic
import Mathlib.Algebra.Order.BigOperators.Group.List
import Mathlib.Algebra.Order.Ring.Nat
import TopicBridge.Proofs.Consumer.Totals
import TopicBridge.Proofs.Table

/-! # Conservation of counts

Three sets of counters are added to at three moments of a message: at its dispatch, at each of its
writes and behind the last one. They differ by what was dispatched and written for messages of which
a write is torn down, and by nothing else. -/

namespace TopicBridge

/-! ## Topic patterns -/

/-- The topic patterns that writes are counted for. -/
def countedTopics (os : List (Rule × WriteOutcome)) : List String :=
  (os.filter (·.2 != .suppressed)).map (·.1.topic)

/-- The topic patterns that refused writes are counted for. -/
def refusedTopics (os : List (Rule × WriteOutcome)) : List String :=
  (os.filter (·.2 == .failed)).map (·.1.topic)

theorem refusedTopics_sublist (os : List (Rule × WriteOutcome)) :
    (refusedTopics os).Sublist (countedTopics os) := by
  refine (List.monotone_filter_right os ?_).map _
  rintro ⟨r, o⟩ h
  rw [beq_iff_eq] at h
  rw [h]
  rfl

theorem length_countedTopics (os : List (Rule × WriteOutcome)) :
    (countedTopics os).length = (os.map (·.2)).count .written + (os.map (·.2)).count .failed := by
  rw [countedTopics, List.length_map, ← List.countP_eq_length_filter]
  induction os with
  | nil => rfl
  | cons x os ih =>
      rw [List.map_cons, List.countP_cons, ih, List.count_cons, List.count_cons]
      cases x.2 with
      | written => simp; omega
      | failed => simp; omega
      | suppressed => simp

/-- What a topic pattern is counted with. -/
def tally (os : List (Rule × WriteOutcome)) (topic : String) : RuleStats :=
  ⟨.ofNat ((countedTopics os).count topic), .ofNat ((refusedTopics os).count topic)⟩

theorem tally_of_not_mem {os : List (Rule × WriteOutcome)} {topic : String}
    (h : topic ∉ countedTopics os) : tally os topic = .zero := by
  have hrefused : topic ∉ refusedTopics os := fun hmem =>
    h ((refusedTopics_sublist os).mem hmem)
  rw [tally, List.count_eq_zero.mpr h, List.count_eq_zero.mpr hrefused]
  rfl

theorem tally_append_singleton (os : List (Rule × WriteOutcome)) (r : Rule) {o : WriteOutcome}
    (ho : o ≠ .suppressed) (topic : String) :
    tally (os ++ [(r, o)]) topic =
      if r.topic = topic then
        ⟨(tally os topic).records + 1,
          (tally os topic).writeFailures + if o == .failed then 1 else 0⟩
      else tally os topic := by
  have hcounted : countedTopics (os ++ [(r, o)]) = countedTopics os ++ [r.topic] := by
    simp [countedTopics, ho]
  have hrefused : refusedTopics (os ++ [(r, o)]) =
      refusedTopics os ++ if o == .failed then [r.topic] else [] := by
    cases o <;> simp [refusedTopics]
  rw [tally, hcounted, hrefused, List.count_append, List.count_append, tally]
  by_cases htopic : r.topic = topic
  · cases o <;> simp [htopic]
  · cases o <;> simp [htopic]

/-- Counts are found for a topic pattern if and only if there is something to count. -/
def Tallied (s : Stats) (os : List (Rule × WriteOutcome)) : Prop :=
  ∀ topic, s.rules.get? topic =
    if topic ∈ countedTopics os then some (tally os topic) else none

theorem Tallied.rule {s : Stats} {os : List (Rule × WriteOutcome)} (h : Tallied s os)
    (topic : String) : s.rule topic = tally os topic := by
  rw [Stats.rule, h topic]
  split
  · rfl
  · next hnew => exact (tally_of_not_mem hnew).symm

theorem tallied_countRules (os : List (Rule × WriteOutcome)) :
    Tallied (Stats.zero.countRules os) os := by
  induction os using List.reverseRecOn with
  | nil => exact fun _ => rfl
  | append_singleton os x ih =>
      obtain ⟨r, o⟩ := x
      intro topic
      have hstep : Stats.zero.countRules (os ++ [(r, o)]) =
          if o = .suppressed then Stats.zero.countRules os
          else (Stats.zero.countRules os).countRule r.topic (o == .failed) := by
        simp only [Stats.countRules, List.foldl_append, List.foldl_cons, List.foldl_nil]
      rw [hstep]
      by_cases ho : o = .suppressed
      · subst ho
        have hcounted : countedTopics (os ++ [(r, .suppressed)]) = countedTopics os := by
          simp [countedTopics]
        have hrefused : refusedTopics (os ++ [(r, .suppressed)]) = refusedTopics os := by
          simp [refusedTopics]
        rw [if_pos rfl, ih, tally, tally, hcounted, hrefused]
      · have hcounted : countedTopics (os ++ [(r, o)]) = countedTopics os ++ [r.topic] := by
          simp [countedTopics, ho]
        rw [if_neg ho, Stats.countRule, Table.get?_insert, ih.rule, hcounted,
          tally_append_singleton os r ho]
        by_cases htopic : r.topic = topic
        · subst htopic
          simp
        · simp [htopic, Ne.symm htopic, ih topic]

theorem sum_count_of_nodup {keys topics : List String} (hkeys : keys.Nodup)
    (h : ∀ topic ∈ topics, topic ∈ keys) :
    (keys.map fun k => topics.count k).sum = topics.length := by
  rw [← List.sum_toFinset _ hkeys]
  have hcard := Multiset.sum_count_eq_card (s := keys.toFinset) (m := (topics : Multiset String))
    (by simpa using h)
  simpa using hcard

/-- The counts of all topic patterns add up to the number of writes. -/
theorem Tallied.sum_records {s : Stats} {os : List (Rule × WriteOutcome)} (h : Tallied s os)
    (hbound : (countedTopics os).length < 2 ^ 64) :
    (s.rules.entries.map fun (_, counts) => counts.records.toNat).sum =
      (countedTopics os).length := by
  have hentry : ∀ e ∈ s.rules.entries, e.2.records.toNat = (countedTopics os).count e.1 := by
    intro e he
    have hfound := (s.rules.get?_eq_some_iff e.1 e.2).mpr he
    rw [h e.1] at hfound
    split at hfound
    · rw [← Option.some.inj hfound, tally]
      exact UInt64.toNat_ofNat_of_lt' (Nat.lt_of_le_of_lt List.count_le_length hbound)
    · cases hfound
  have hall : ∀ topic ∈ countedTopics os, topic ∈ s.rules.keys := by
    intro topic htopic
    have hfound := h topic
    rw [if_pos htopic, Table.get?_eq_some_iff] at hfound
    exact List.mem_map.mpr ⟨_, hfound, rfl⟩
  rw [← sum_count_of_nodup s.rules.nodup_keys hall, Table.keys, List.map_map]
  congr 1
  exact List.map_congr_left hentry

theorem Tallied.failures_le {s : Stats} {os : List (Rule × WriteOutcome)} (h : Tallied s os)
    (hbound : (countedTopics os).length < 2 ^ 64) (topic : String) :
    (s.rule topic).writeFailures ≤ (s.rule topic).records := by
  have hle := (refusedTopics_sublist os).count_le topic
  have hlt : (countedTopics os).count topic < 2 ^ 64 :=
    Nat.lt_of_le_of_lt List.count_le_length hbound
  rw [h.rule, tally, UInt64.le_iff_toNat_le, UInt64.toNat_ofNat_of_lt' hlt,
    UInt64.toNat_ofNat_of_lt' (Nat.lt_of_le_of_lt hle hlt)]
  exact hle

/-! ## One message -/

theorem WriteSummary.total_ofOutcomes (os : List WriteOutcome) :
    (ofOutcomes os).written + (ofOutcomes os).failed + (ofOutcomes os).suppressed = os.length := by
  simp only [ofOutcomes]
  induction os with
  | nil => rfl
  | cons o os ih =>
      rw [List.count_cons, List.count_cons, List.count_cons, List.length_cons]
      cases o with
      | written => simp; omega
      | failed => simp; omega
      | suppressed => simp; omega

/-- How many calls were answered. -/
def completed (cs : List Call) : Nat := cs.countP fun c => !c.answer.isBroken

theorem completed_eq (cs : List Call) :
    completed cs = answered .written cs + answered .failed cs := by
  simp only [completed, answered]
  induction cs with
  | nil => rfl
  | cons c cs ih =>
      rw [List.countP_cons, List.countP_cons, List.countP_cons, ih]
      cases c.answer with
      | accepted => simp [Answer.isBroken, Answer.outcome?]; omega
      | refused cause => simp [Answer.isBroken, Answer.outcome?]; omega
      | broke reason => simp [Answer.isBroken, Answer.outcome?]

/-- All writes of a message come to an end unless one is torn down. -/
theorem Sink.length_outcomes_deliver {σ : Type} (sink : Sink σ) (topic : String) (s : σ)
    (ds : List Dispatched) (h : (sink.deliver topic s ds).broken = none) :
    (sink.deliver topic s ds).outcomes.length = ds.length := by
  induction ds generalizing s with
  | nil => rfl
  | cons d ds ih =>
      rw [deliver_cons] at h ⊢
      simp only at h ⊢
      cases hfirst : (sink.writeOne topic s d).outcome with
      | error reason =>
          rw [hfirst] at h
          cases h
      | ok o =>
          rw [hfirst] at h
          simp only [Delivery.after, List.length_cons]
          rw [ih _ h]

theorem RuleSet.records_report (rules : RuleSet) (m : Message) :
    (rules.report m).records = (rules.dispatch m).length := by
  simp only [report, DispatchReport.ofOutcomes, dispatch, recordsOf,
    List.length_filterMap_eq_countP, List.countP_map]
  apply List.countP_congr
  intro x _
  simp

namespace Consumer

variable {σ : Type} (rules : RuleSet) (sink : Sink σ)

/-- The writes for a message that come to an end. -/
def delivered (m : Message) (s : σ) : List (Rule × WriteOutcome) :=
  (sink.deliver m.topic s (rules.dispatch m)).outcomes

/-- The writes for a message that came to an end are its calls that were answered. -/
theorem length_countedTopics_delivered (m : Message) (s : σ) :
    (countedTopics (delivered rules sink m s)).length = completed (callsFor rules sink m s) := by
  rw [length_countedTopics, completed_eq, delivered, callsFor,
    sink.count_outcomes_deliver m.topic s _ (by decide),
    sink.count_outcomes_deliver m.topic s _ (by decide)]

theorem length_callsFor_le (m : Message) (s : σ) :
    (callsFor rules sink m s).length ≤ (rules.dispatch m).length := by
  have hcut := (sink.calls_spec s (writable (rules.dispatch m))).inOrder.length_le
  rw [List.length_map, writable, List.length_map] at hcut
  exact hcut.trans (List.length_filter_le _ _)

/-- The writes of a message account for its records, unless one is torn down. -/
theorem writes_add_lost (m : Message) (s : σ) :
    writes rules sink (·.written) m s + writes rules sink (·.failed) m s +
        writes rules sink (·.suppressed) m s +
        (if breaks rules sink m s then (rules.dispatch m).length else 0) =
      (rules.dispatch m).length := by
  rw [breaks, callsFor, ← sink.isSome_broken_deliver m.topic]
  simp only [writes, RuleSet.process_eq, Delivery.toProcessed]
  cases hbroken : (sink.deliver m.topic s (rules.dispatch m)).broken with
  | some reason => simp
  | none =>
      have htotal := WriteSummary.total_ofOutcomes
        ((sink.deliver m.topic s (rules.dispatch m)).outcomes.map (·.2))
      rw [List.length_map, sink.length_outcomes_deliver m.topic s _ hbroken] at htotal
      simpa using htotal

theorem length_dispatch_pos {m : Message} {s : σ} (h : breaks rules sink m s = true) :
    0 < (rules.dispatch m).length := by
  obtain ⟨c, hc, -⟩ := List.any_eq_true.mp h
  exact Nat.lt_of_lt_of_le (List.length_pos_of_mem hc) (length_callsFor_le rules sink m s)

/-! ## Runs -/

theorem rules_countRules_congr {s s' : Stats} (h : s.rules = s'.rules)
    (os : List (Rule × WriteOutcome)) : (s.countRules os).rules = (s'.countRules os).rules := by
  induction os generalizing s s' with
  | nil => exact h
  | cons x os ih =>
      simp only [Stats.countRules, List.foldl_cons] at ih ⊢
      split
      · exact ih h
      · apply ih
        simp only [Stats.countRule, Stats.rule, h]

theorem rules_handle (now : Nat) (m : Message) (s : σ) (stats : Stats) :
    (handle now rules sink m s stats).stats.rules =
      (stats.countRules (delivered rules sink m s)).rules := by
  have hrules : ∀ (d : Delivery σ) (before : Stats),
      (countDelivery d before).rules = (before.countRules d.outcomes).rules := by
    intro d before
    rw [countDelivery]
    split <;> rfl
  have hbefore : (stats.countReceived.countDispatch now (rules.report m)).rules = stats.rules := rfl
  exact (hrules _ _).trans (rules_countRules_congr hbefore _)

theorem rules_consume (now : Nat) (items : List Item) (s : σ) (stats : Stats) :
    (consume now rules sink items s stats).stats.rules =
      (stats.countRules ((encounters rules sink (pending items) s).flatMap fun (m, s) =>
        delivered rules sink m s)).rules := by
  induction items generalizing s stats with
  | nil => rfl
  | cons item items ih =>
      cases item with
      | shutdown => rfl
      | message m =>
          simp only [consume, pending, encounters, List.flatMap_cons]
          rw [ih, state_handle, rules_countRules_congr (rules_handle rules sink now m s stats),
            Stats.countRules, Stats.countRules, Stats.countRules, List.foldl_append]

theorem length_countedTopics_flatMap (es : List (Message × σ)) :
    (countedTopics (es.flatMap fun (m, s) => delivered rules sink m s)).length =
      completed (callsOf rules sink es) := by
  induction es with
  | nil => rfl
  | cons e es ih =>
      obtain ⟨m, s⟩ := e
      have hfirst := length_countedTopics_delivered rules sink m s
      simp only [countedTopics, List.length_map, completed] at hfirst ih
      simp only [countedTopics, List.length_map, completed, callsOf, List.flatMap_cons,
        List.filter_append, List.length_append, List.countP_append, hfirst, ih]

/-- What messages come to, added up. -/
def total (amount : Message → σ → Nat) (es : List (Message × σ)) : Nat :=
  (es.map fun (m, s) => amount m s).sum

theorem total_cons (amount : Message → σ → Nat) (m : Message) (s : σ)
    (es : List (Message × σ)) : total amount ((m, s) :: es) = amount m s + total amount es :=
  List.sum_cons

/-- What messages come to at the rules, added up. -/
def reported (count : DispatchReport → Nat) (es : List (Message × σ)) : Nat :=
  total (fun m _ => count (rules.report m)) es

/-- The records of messages of which a write is torn down. -/
def lost (es : List (Message × σ)) : Nat :=
  total (fun m _ => (rules.dispatch m).length) (torn rules sink es)

theorem completed_callsOf_le (es : List (Message × σ)) :
    completed (callsOf rules sink es) ≤ reported rules (·.records) es := by
  refine List.countP_le_length.trans ?_
  simp only [reported, total, RuleSet.records_report]
  rw [callsOf, List.length_flatMap]
  exact List.sum_le_sum fun e _ => length_callsFor_le rules sink e.1 e.2

/-- What is dispatched is written, refused, suppressed or lost. -/
theorem total_writes_add_lost (es : List (Message × σ)) :
    total (writes rules sink (·.written)) es + total (writes rules sink (·.failed)) es +
        total (writes rules sink (·.suppressed)) es + lost rules sink es =
      reported rules (·.records) es := by
  induction es with
  | nil => rfl
  | cons e es ih =>
      obtain ⟨m, s⟩ := e
      have hfirst := writes_add_lost rules sink m s
      simp only [lost, torn, reported, RuleSet.records_report] at ih
      simp only [lost, torn, reported, total_cons, List.filter_cons, RuleSet.records_report]
      by_cases hb : breaks rules sink m s = true
      · rw [if_pos hb] at hfirst
        simp only [if_pos hb, total_cons]
        omega
      · rw [if_neg hb] at hfirst
        simp only [if_neg hb]
        omega

theorem length_torn_le (es : List (Message × σ)) :
    (torn rules sink es).length ≤ lost rules sink es := by
  rw [lost, total, ← List.length_map fun (e : Message × σ) => (rules.dispatch e.1).length]
  refine List.length_le_sum_of_one_le _ fun n hn => ?_
  obtain ⟨e, he, rfl⟩ := List.mem_map.mp hn
  exact length_dispatch_pos rules sink (List.mem_filter.mp he).2

theorem lost_eq_zero_iff (es : List (Message × σ)) :
    lost rules sink es = 0 ↔ (torn rules sink es).length = 0 := by
  constructor
  · have hle := length_torn_le rules sink es
    omega
  · intro h
    rw [lost, List.length_eq_zero_iff.mp h]
    rfl

/-- How the counters stand to each other after a run before which nothing was counted. -/
structure ConservationSpec (es : List (Message × σ)) (after : Stats) : Prop where
  errors : after.errors.toNat = (torn rules sink es).length
  /-- Records that are not counted again were dispatched for torn messages. -/
  records : after.records.toNat =
    after.written.toNat + after.writeFailures.toNat + after.suppressed.toNat + lost rules sink es
  balanced : after.records.toNat =
      after.written.toNat + after.writeFailures.toNat + after.suppressed.toNat ↔
    after.errors = 0
  /-- Topic patterns count the writes that came to an end in torn messages, too. -/
  patterns : (after.rules.entries.map fun (_, counts) => counts.records.toNat).sum =
    after.written.toNat + after.writeFailures.toNat +
      completed (callsOf rules sink (torn rules sink es))
  failures : ∀ topic, (after.rule topic).writeFailures ≤ (after.rule topic).records
  /-- All messages count at their dispatch, torn ones included. -/
  reports : after.records.toNat = reported rules (·.records) es ∧
    after.rejected.toNat = reported rules (·.rejected) es ∧
    after.skippedRetained.toNat = reported rules (·.skippedRetained) es ∧
    after.buildFailures.toNat = reported rules (·.failed) es

theorem toNat_total {counter : UInt64} {n : Nat} (hcounter : counter = 0 + .ofNat n)
    (hbound : n < 2 ^ 64) : counter.toNat = n :=
  toNat_counter hcounter (Nat.add_zero n) hbound

theorem run_conservation (now : Nat) (items : List Item) (s : σ)
    (hrecords : reported rules (·.records) (encounters rules sink (pending items) s) < 2 ^ 64)
    (hrejected : reported rules (·.rejected) (encounters rules sink (pending items) s) < 2 ^ 64)
    (hskipped :
      reported rules (·.skippedRetained) (encounters rules sink (pending items) s) < 2 ^ 64)
    (hfailed : reported rules (·.failed) (encounters rules sink (pending items) s) < 2 ^ 64) :
    ConservationSpec rules sink (encounters rules sink (pending items) s)
      (run now rules sink items s .zero).stats := by
  have hcounts := consume_counts now rules sink items s .zero
  have htallied : Tallied (consume now rules sink items s .zero).stats
      ((encounters rules sink (pending items) s).flatMap fun (m, s) =>
        delivered rules sink m s) := by
    intro topic
    rw [rules_consume]
    exact tallied_countRules _ topic
  change ConservationSpec rules sink _ (consume now rules sink items s .zero).stats
  generalize encounters rules sink (pending items) s = es at *
  generalize (consume now rules sink items s .zero).stats = after at *
  have htopics := length_countedTopics_flatMap rules sink es
  generalize (es.flatMap fun (m, s) => delivered rules sink m s) = os at *
  -- no counter of writes exceeds the one of records
  have hsum := total_writes_add_lost rules sink es
  have htorn := length_torn_le rules sink es
  have hr : after.records.toNat = reported rules (·.records) es :=
    toNat_total hcounts.records hrecords
  have hw : after.written.toNat = total (writes rules sink (·.written)) es :=
    toNat_total hcounts.written (by omega)
  have hf : after.writeFailures.toNat = total (writes rules sink (·.failed)) es :=
    toNat_total hcounts.writeFailures (by omega)
  have hs : after.suppressed.toNat = total (writes rules sink (·.suppressed)) es :=
    toNat_total hcounts.suppressed (by omega)
  have he : after.errors.toNat = (torn rules sink es).length := by
    have herrors := hcounts.errors
    rw [List.countP_eq_length_filter] at herrors
    exact toNat_total herrors (Nat.lt_of_le_of_lt (htorn.trans (by omega)) hrecords)
  have hbound : (countedTopics os).length < 2 ^ 64 := by
    rw [htopics]
    exact Nat.lt_of_le_of_lt (completed_callsOf_le rules sink es) hrecords
  refine ⟨he, by omega, ?_, ?_, htallied.failures_le hbound, hr,
    toNat_total hcounts.rejected hrejected, toNat_total hcounts.skippedRetained hskipped,
    toNat_total hcounts.buildFailures hfailed⟩
  · have hnone : after.errors = 0 ↔ lost rules sink es = 0 := by
      rw [lost_eq_zero_iff, ← he, ← UInt64.toNat_inj]
      rfl
    rw [hnone]
    omega
  · have hwritten : total (writes rules sink (·.written)) es +
          answered .written (callsOf rules sink (torn rules sink es)) =
        answered .written (callsOf rules sink es) :=
      sum_writes rules sink (by decide) (fun _ => rfl) es
    have hrefused : total (writes rules sink (·.failed)) es +
          answered .failed (callsOf rules sink (torn rules sink es)) =
        answered .failed (callsOf rules sink es) :=
      sum_writes rules sink (by decide) (fun _ => rfl) es
    rw [htallied.sum_records hbound, htopics, completed_eq, completed_eq]
    omega

/-- The counters of one whole message and of one that is torn behind a written, a suppressed and a
refused record. -/
theorem run_conservation_torn :
    let suppressed := { measured "hidden" with disableWrite := true }
    let other := { measured "other" with pattern := ⟨"b", [.literal "b"], .empty⟩ }
    let rules := RuleSet.ofRules
      [measured "kept", suppressed, measured "refused", measured "broken", other]
    let items : List Item := [.message ⟨"b", [], 0, false⟩, .message ⟨"a", [], 0, false⟩, .shutdown]
    let es := encounters rules byMeasurement (pending items) ()
    (reported rules (·.records) es < 2 ^ 64 ∧ reported rules (·.rejected) es < 2 ^ 64 ∧
      reported rules (·.skippedRetained) es < 2 ^ 64 ∧ reported rules (·.failed) es < 2 ^ 64) ∧
    ConservationSpec rules byMeasurement es (run 1 rules byMeasurement items () .zero).stats := by
  intro suppressed other rules items es
  have hrecords : reported rules (·.records) es < 2 ^ 64 := by decide +kernel
  have hrejected : reported rules (·.rejected) es < 2 ^ 64 := by decide +kernel
  have hskipped : reported rules (·.skippedRetained) es < 2 ^ 64 := by decide +kernel
  have hfailed : reported rules (·.failed) es < 2 ^ 64 := by decide +kernel
  exact ⟨⟨hrecords, hrejected, hskipped, hfailed⟩,
    run_conservation rules byMeasurement 1 items () hrecords hrejected hskipped hfailed⟩

end Consumer
end TopicBridge
