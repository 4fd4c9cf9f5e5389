import TopicBridge.Proofs.Rule.Reference
import TopicBridge.Proofs.Source.Gate
import TopicBridge.Proofs.Topic.LineUp

/-! # The gate and the rules agree

The gate of a list of rules holds a copy of their filters, without the ones that are not valid. It
lets in the messages that some rule is asked about. -/

namespace TopicBridge.Gate

/-! ## Filters -/

theorem ofRules_eq (topicPrefix : String) (q : Queue) (rs : List Rule) :
    ofRules topicPrefix q (.ofRules rs) =
      ⟨Config.closePrefix topicPrefix, ((rs.map Rule.normalized).filter Filter.isValid).eraseDups,
        q⟩ := by
  have hnone : (opened topicPrefix q).Subscribed [] := rfl
  obtain ⟨hfilters, hlead, hqueue⟩ := subscribeAll_spec hnone (RuleSet.ofRules rs).subscriptions
  have hlead : ((opened topicPrefix q).subscribeAll (RuleSet.ofRules rs).subscriptions).lead =
      Config.closePrefix topicPrefix := hlead.trans (leadOf_eq topicPrefix)
  have hsubscriptions := RuleSet.subscriptions_ofRules rs
  -- the filters of groups are distinct already
  rw [Subscribed, List.nil_append, hsubscriptions, ← eraseDups_filter,
    eraseDups_of_nodup (nodup_eraseDups _), ← hsubscriptions] at hfilters
  rw [ofRules]
  generalize (opened topicPrefix q).subscribeAll (RuleSet.ofRules rs).subscriptions = g at *
  cases g
  cases hfilters
  cases hlead
  cases hqueue
  rfl

theorem isSubscribed_ofRules (topicPrefix : String) (q : Queue) (rs : List Rule)
    (topic : String) :
    (ofRules topicPrefix q (.ofRules rs)).isSubscribed topic ↔
      ∃ r ∈ rs, Filter.selects r.normalized topic := by
  rw [ofRules_eq, isSubscribed, List.any_eq_true]
  simp only [List.mem_eraseDups, List.mem_filter, List.mem_map]
  constructor
  · rintro ⟨_, ⟨⟨r, hr, rfl⟩, -⟩, hs⟩
    exact ⟨r, hr, hs⟩
  · rintro ⟨r, hr, hs⟩
    exact ⟨r.normalized, ⟨⟨r, hr, rfl⟩, Filter.isValid_of_selects hs⟩, hs⟩

/-! ## Agreement -/

/-- Brings a message under its topic behind the prefix of the gate. -/
def bring (g : Gate) (m : Message) : Admission :=
  g.accept (g.lead ++ m.topic) m.payload m.qos m.retain

theorem bring_eq_unsubscribed_iff (g : Gate) (m : Message) :
    g.bring m = .unsubscribed ↔ g.isSubscribed m.topic = false := by
  have hcases := g.accept_derivation (g.lead ++ m.topic) m.payload m.qos m.retain
  rw [bring]
  generalize g.accept (g.lead ++ m.topic) m.payload m.qos m.retain = a at hcases ⊢
  cases hcases with
  | outside h => exact absurd rfl (h m.topic)
  | unsubscribed h hs => simp [eq_of_lead_append h, hs]
  | closed h hs => simp [eq_of_lead_append h, hs]
  | waits h hs => simp [eq_of_lead_append h, hs]
  | queued h hs => simp [eq_of_lead_append h, hs]

theorem queue_of_bring {g g' : Gate} {m : Message} (h : g.bring m = .queued g') :
    g' = { g with queue := g.queue.add (.message m) } := by
  have hcases := g.accept_derivation (g.lead ++ m.topic) m.payload m.qos m.retain
  rw [← bring, h] at hcases
  cases hcases with
  | queued hinner hs hopen hroom => rw [← eq_of_lead_append hinner]

theorem total_eq_zero_iff (rs : List Rule) (m : Message) :
    ((RuleSet.ofRules rs).dispatchWithReport m).2.total = 0 ↔
      (RuleSet.ofRules rs).outcomes m = [] := by
  rw [RuleSet.dispatchWithReport_eq, RuleSet.report, DispatchReport.total_ofOutcomes,
    List.length_map, List.length_eq_zero_iff]

/-- There are outcomes if and only if some rule selects the topic. -/
theorem outcomes_eq_nil_iff (rs : List Rule) (m : Message) :
    (RuleSet.ofRules rs).outcomes m = [] ↔
      ¬ ∃ r ∈ rs, Filter.selects r.normalized m.topic := by
  rw [RuleSet.outcomes, List.map_eq_nil_iff, RuleSet.selected_ofRules, List.filter_eq_nil_iff]
  simp [(RuleSet.rules_ofRules_perm rs).mem_iff]

/-- What the gate of a list of rules lets in, and what the rules make of it. -/
structure AgreementSpec (topicPrefix : String) (q : Queue) (rs : List Rule) (g : Gate) : Prop where
  lead : g.lead = Config.closePrefix topicPrefix
  filters : g.filters = ((rs.map Rule.normalized).filter Filter.isValid).eraseDups
  queue : g.queue = q
  subscribed : ∀ topic, g.isSubscribed topic ↔ ∃ r ∈ rs, Filter.selects r.normalized topic
  outside : ∀ topic, (∀ inner, topic ≠ g.lead ++ inner) → ∀ payload qos retain,
    g.accept topic payload qos retain = .refused (.outsidePrefix topic g.lead)
  /-- A message is turned away at the gate if and only if no rule counts it. -/
  door : ∀ m : Message, g.bring m = .unsubscribed ↔
    ((RuleSet.ofRules rs).dispatchWithReport m).2.total = 0
  unsubscribed : ∀ m : Message, g.bring m = .unsubscribed →
    (RuleSet.ofRules rs).dispatchWithReport m = ([], ⟨0, 0, 0, 0⟩)
  /-- A gate that lets a message in differs by this message in the queue. -/
  queued : ∀ (m : Message) g', g.bring m = .queued g' →
    g' = ofRules topicPrefix (q.add (.message m)) (.ofRules rs) ∧
      1 ≤ ((RuleSet.ofRules rs).dispatchWithReport m).2.total

theorem agreement_spec (topicPrefix : String) (q : Queue) (rs : List Rule) :
    AgreementSpec topicPrefix q rs (ofRules topicPrefix q (.ofRules rs)) := by
  have heq := ofRules_eq topicPrefix q rs
  have hsubscribed := isSubscribed_ofRules topicPrefix q rs
  have hdoor : ∀ m : Message, (ofRules topicPrefix q (.ofRules rs)).bring m = .unsubscribed ↔
      (RuleSet.ofRules rs).outcomes m = [] := by
    intro m
    rw [bring_eq_unsubscribed_iff, outcomes_eq_nil_iff, ← hsubscribed, Bool.not_eq_true]
  refine ⟨by rw [heq], by rw [heq], by rw [heq], hsubscribed, ?_, ?_, ?_, ?_⟩
  · intro topic houtside payload qos retain
    rw [accept, strip_of_outside houtside]
  · intro m
    rw [hdoor, total_eq_zero_iff]
  · intro m h
    rw [RuleSet.dispatchWithReport_eq, RuleSet.dispatch, RuleSet.report, (hdoor m).mp h]
    rfl
  · intro m g' h
    refine ⟨?_, Nat.pos_of_ne_zero fun hzero => ?_⟩
    · rw [queue_of_bring h, heq, ofRules_eq]
    · rw [total_eq_zero_iff, ← hdoor, h] at hzero
      cases hzero

end TopicBridge.Gate
