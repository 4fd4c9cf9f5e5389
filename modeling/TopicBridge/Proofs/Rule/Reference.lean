import TopicBridge.Proofs.Rule.Grouping
import TopicBridge.Proofs.Rule.Loop

/-! # Dispatching rule by rule

A rule has an outcome of its own at a message, whatever other rules there are. Dispatching to the
groups of a list of rules comes to the outcomes of these rules. -/

namespace TopicBridge

namespace Rule

/-- What becomes of a message at a rule, if the message is for it. -/
def outcome? (rule : Rule) (m : Message) : Option Outcome :=
  if Filter.selects rule.normalized m.topic then some (rule.evaluate m) else none

/-- The outcome of a rule in its own terms: whether the filter selects the topic, whether both are
about retained messages, what the topic captures and what record there is. -/
inductive OutcomeDerivation (rule : Rule) (m : Message) : Option Outcome → Prop where
  | unselected (hs : Filter.selects rule.normalized m.topic = false) :
      OutcomeDerivation rule m none
  | skipped (hs : Filter.selects rule.normalized m.topic) (hm : m.retain = true)
      (hr : rule.retain = false) : OutcomeDerivation rule m (some .skipped)
  | rejected (hs : Filter.selects rule.normalized m.topic)
      (hm : m.retain = true → rule.retain = true)
      {token text tokenRule} (hp : rule.pattern.parse m.topic = .rejected token text tokenRule) :
      OutcomeDerivation rule m (some (.rejected token text tokenRule))
  | failed (hs : Filter.selects rule.normalized m.topic)
      (hm : m.retain = true → rule.retain = true)
      {captures cause} (hp : rule.pattern.parse m.topic = .captured captures)
      (hr : rule.record m.payload captures = .error cause) :
      OutcomeDerivation rule m (some (.failed cause))
  | built (hs : Filter.selects rule.normalized m.topic)
      (hm : m.retain = true → rule.retain = true)
      {captures record} (hp : rule.pattern.parse m.topic = .captured captures)
      (hr : rule.record m.payload captures = .ok record) :
      OutcomeDerivation rule m (some (.built record))

theorem OutcomeDerivation.execution {rule : Rule} {m : Message} {o : Option Outcome}
    (h : OutcomeDerivation rule m o) : rule.outcome? m = o := by
  cases h with
  | unselected hs => simp [outcome?, hs]
  | skipped hs hm hr => simp [outcome?, hs, evaluate, hm, hr]
  | rejected hs hm hp =>
      have hasked : (m.retain && !rule.retain) = false := by simpa using hm
      simp [outcome?, hs, evaluate, hasked, hp]
  | failed hs hm hp hr =>
      have hasked : (m.retain && !rule.retain) = false := by simpa using hm
      simp [outcome?, hs, evaluate, hasked, hp, hr]
  | built hs hm hp hr =>
      have hasked : (m.retain && !rule.retain) = false := by simpa using hm
      simp [outcome?, hs, evaluate, hasked, hp, hr]

theorem outcome?_derivation (rule : Rule) (m : Message) :
    OutcomeDerivation rule m (rule.outcome? m) := by
  rw [outcome?, evaluate]
  split
  · next hs =>
      split
      · next hr =>
          simp only [Bool.and_eq_true, Bool.not_eq_true'] at hr
          exact .skipped hs hr.1 hr.2
      · next hr =>
          have hm : m.retain = true → rule.retain = true := by simpa using hr
          cases hp : rule.pattern.parse m.topic with
          | rejected token text tokenRule => exact .rejected hs hm hp
          | captured captures =>
              simp only
              cases hr : rule.record m.payload captures with
              | error cause => exact .failed hs hm hp hr
              | ok record => exact .built hs hm hp hr
  · next hs => exact .unselected (by simpa using hs)

theorem outcomeDerivation_iff (rule : Rule) (m : Message) (o : Option Outcome) :
    OutcomeDerivation rule m o ↔ rule.outcome? m = o := by
  refine ⟨OutcomeDerivation.execution, ?_⟩
  intro h
  exact h ▸ outcome?_derivation rule m

/-- The record of a rule with the rule. -/
def dispatched? (rule : Rule) (m : Message) : Option Dispatched :=
  ((rule.outcome? m).bind Outcome.record?).map fun record => ⟨rule, record⟩

end Rule

/-- The number of outcomes that are counted. -/
def DispatchReport.total (r : DispatchReport) : Nat :=
  r.records + r.skippedRetained + r.rejected + r.failed

/-- Each outcome is counted once. -/
theorem DispatchReport.total_ofOutcomes (os : List Outcome) :
    (ofOutcomes os).total = os.length := by
  simp only [total, ofOutcomes, List.length_filterMap_eq_countP]
  induction os with
  | nil => rfl
  | cons o os ih =>
      have hone : (if o.record?.isSome then 1 else 0) + (if o.isSkipped then 1 else 0) +
          (if o.isRejected then 1 else 0) + (if o.isFailed then 1 else 0) = 1 := by
        cases o <;> rfl
      simp only [List.countP_cons, List.length_cons]
      omega

namespace RuleSet

/-- The rules in the order in which a message comes to them: groups as their filters came first, and
in a group the rules as they came. -/
def inOrder (rs : List Rule) : List Rule :=
  (rs.map Rule.normalized).eraseDups.flatMap fun k => rs.filter (·.normalized = k)

theorem inOrder_perm (rs : List Rule) : (inOrder rs).Perm rs := by
  rw [inOrder, ← rules_ofRules]
  exact rules_ofRules_perm rs

theorem outcomes_ofRules (rs : List Rule) (m : Message) :
    (ofRules rs).outcomes m = (inOrder rs).filterMap fun r => (r.outcome? m).map (r, ·) := by
  rw [outcomes, selected_ofRules, rules_ofRules, inOrder, ← List.filterMap_eq_map,
    List.filterMap_filter]
  apply List.filterMap_congr
  intro r _
  rw [Rule.outcome?]
  split <;> rfl

theorem countP_outcomes (rs : List Rule) (m : Message) (p : Outcome → Bool) :
    (((ofRules rs).outcomes m).map (·.2)).countP p = rs.countP fun r => (r.outcome? m).any p := by
  rw [outcomes_ofRules, List.countP_map, List.countP_filterMap, (inOrder_perm rs).countP_eq]
  apply List.countP_congr
  intro r _
  cases r.outcome? m <;> simp

/-- The outcomes of one rule among those of a list: its own, as often as it is listed. -/
theorem filter_outcomes (rs : List Rule) (m : Message) (r : Rule) :
    ((ofRules rs).outcomes m).filter (·.1 = r) =
      (List.replicate (rs.count r) r).filterMap fun r => (r.outcome? m).map (r, ·) := by
  rw [outcomes_ofRules, List.filter_filterMap, ← (inOrder_perm rs).count_eq r, ← List.filter_eq,
    List.filterMap_filter]
  apply List.filterMap_congr
  intro q _
  cases q.outcome? m <;> by_cases hq : q = r <;> simp [hq]

/-- Dispatching a message to the groups of a list of rules asks each of these rules by itself. -/
structure DispatchSpec (rs : List Rule) (m : Message) : Prop where
  alone : ∀ (r : Rule) (o : Option Outcome), r.OutcomeDerivation m o ↔ r.outcome? m = o
  once : (ofRules rs).rules.Perm rs
  order : (ofRules rs).rules = inOrder rs
  asked : ((ofRules rs).outcomes m).map (·.1) =
    (inOrder rs).filter fun r => Filter.selects r.normalized m.topic
  outcomes : (ofRules rs).outcomes m = (inOrder rs).filterMap fun r => (r.outcome? m).map (r, ·)
  loop : (ofRules rs).dispatchWithReport m = ((ofRules rs).dispatch m, (ofRules rs).report m)
  records : ((ofRules rs).dispatchWithReport m).1 = (inOrder rs).filterMap (·.dispatched? m)
  report : ((ofRules rs).dispatchWithReport m).2 =
    { records := rs.countP fun r => (r.outcome? m).any (·.record?.isSome)
      skippedRetained := rs.countP fun r => (r.outcome? m).any Outcome.isSkipped
      rejected := rs.countP fun r => (r.outcome? m).any Outcome.isRejected
      failed := rs.countP fun r => (r.outcome? m).any Outcome.isFailed }
  total : ((ofRules rs).dispatchWithReport m).2.total =
    rs.countP fun r => Filter.selects r.normalized m.topic
  own : ∀ r, ((ofRules rs).outcomes m).filter (·.1 = r) =
    (List.replicate (rs.count r) r).filterMap fun r => (r.outcome? m).map (r, ·)
  /-- Other rules may come, go and change places. -/
  independent : ∀ rs' r, rs'.count r = rs.count r →
    ((ofRules rs').outcomes m).filter (·.1 = r) = ((ofRules rs).outcomes m).filter (·.1 = r)

theorem dispatch_spec (rs : List Rule) (m : Message) : DispatchSpec rs m := by
  have hasked : ((ofRules rs).outcomes m).map (·.1) =
      (inOrder rs).filter fun r => Filter.selects r.normalized m.topic := by
    rw [RuleSet.outcomes, selected_ofRules, rules_ofRules, List.map_map]
    exact List.map_id _
  have hreport : ((ofRules rs).dispatchWithReport m).2 =
      { records := rs.countP fun r => (r.outcome? m).any (·.record?.isSome)
        skippedRetained := rs.countP fun r => (r.outcome? m).any Outcome.isSkipped
        rejected := rs.countP fun r => (r.outcome? m).any Outcome.isRejected
        failed := rs.countP fun r => (r.outcome? m).any Outcome.isFailed } := by
    rw [dispatchWithReport_eq, RuleSet.report, DispatchReport.ofOutcomes,
      List.length_filterMap_eq_countP, countP_outcomes, countP_outcomes, countP_outcomes,
      countP_outcomes]
  refine ⟨fun r o => Rule.outcomeDerivation_iff r m o, rules_ofRules_perm rs, rules_ofRules rs,
    hasked, outcomes_ofRules rs m, dispatchWithReport_eq _ m, ?_, hreport, ?_,
    filter_outcomes rs m, ?_⟩
  · rw [dispatchWithReport_eq, dispatch, recordsOf, outcomes_ofRules, List.filterMap_filterMap]
    apply List.filterMap_congr
    intro r _
    rw [Rule.dispatched?]
    cases r.outcome? m <;> rfl
  · rw [dispatchWithReport_eq, RuleSet.report, DispatchReport.total_ofOutcomes, List.length_map,
      ← List.length_map (·.1), hasked, ← List.countP_eq_length_filter, (inOrder_perm rs).countP_eq]
  · intro rs' r hcount
    rw [filter_outcomes, filter_outcomes, hcount]

end RuleSet
end TopicBridge
