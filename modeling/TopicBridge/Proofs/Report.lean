import Mathlib.Data.List.Nodup
import TopicBridge.Http.Service
import TopicBridge.Proofs.Rule.Binding
import TopicBridge.Proofs.Source.Agreement
import TopicBridge.Report

/-! # Reports describe the service

A report and a service are made of the same configuration in different ways. The report names the
subscriptions that the service has and the rules that it asks. -/

namespace TopicBridge

/-! ## Prefixes -/

/-- A prefix that needs no slash behind it. -/
def Closed (lead : String) : Prop := lead = "" ∨ lead.toList.getLast? = some '/'

theorem Config.closePrefix_of_closed {lead : String} (h : Closed lead) :
    closePrefix lead = lead := by
  rw [closePrefix, if_pos]
  rcases h with rfl | h
  · rfl
  · simp [h]

theorem Config.closed_closePrefix (topicPrefix : String) : Closed (closePrefix topicPrefix) := by
  rw [closePrefix]
  split
  · next h =>
      rw [Bool.or_eq_true, String.isEmpty_iff, beq_iff_eq] at h
      exact h
  · refine .inr ?_
    rw [String.toList_append, List.getLast?_append]
    rfl

/-! ## Rules that entries are bound to -/

namespace RuleSet

theorem filter_normalized_bound (entries : List RuleEntry) :
    ((bound entries).map Rule.normalized).filter Filter.isValid =
      (bound entries).map Rule.normalized := by
  rw [List.filter_eq_self]
  intro k hk
  obtain ⟨r, hr, rfl⟩ := List.mem_map.mp hk
  exact isValid_of_mem_bound hr

theorem size_ofEntries (entries : List RuleEntry) :
    (ofEntries entries).size = entries.countP fun e => (Rule.bind e).toOption.isSome := by
  rw [size, ofEntries, (rules_ofRules_perm _).length_eq, bound, List.length_filterMap_eq_countP]

end RuleSet

/-! ## Agreement -/

namespace Report

/-- What a report says is what a service does with the rules of the same configuration. -/
structure DescribesSpec (c : Config) (r : Report) (set : RuleSet) (gate : Gate) : Prop where
  lead : r.lead = gate.lead
  /-- Both ways to close a prefix come to the same, and a closed prefix stays as it is. -/
  closing : ∀ topicPrefix, Config.closePrefix topicPrefix = Gate.leadOf topicPrefix ∧
    Config.closePrefix (Config.closePrefix topicPrefix) = Config.closePrefix topicPrefix ∧
    Gate.leadOf (Gate.leadOf topicPrefix) = Gate.leadOf topicPrefix
  subscriptions : r.subscriptions = gate.filters.map (gate.lead ++ ·)
  distinct : r.subscriptions.Nodup
  /-- The subscriptions are those of the rules, none is left out. -/
  complete : ∀ full, full ∈ r.subscriptions ↔
    ∃ rule ∈ set.rules, full = r.lead ++ rule.normalized
  rules : r.rules = set.rules.map RuleSummary.ofRule
  /-- The rules are the ones that entries are bound to, group by group. -/
  bound : set.rules = RuleSet.inOrder (RuleSet.bound c.ruleEntries)
  /-- A message comes to the rules for its topic in the order of the report. -/
  asked : ∀ m : Message, (set.outcomes m).map (fun (rule, _) => RuleSummary.ofRule rule) =
    r.rules.filter fun s => Filter.selects s.subscription m.topic
  configured : r.configured = c.ruleEntries.length
  valid : r.valid = c.ruleEntries.countP fun e => (Rule.bind e).toOption.isSome
  skipped : r.skipped = c.ruleEntries.countP fun e => (Rule.bind e).toOption.isNone
  /-- Nothing is taken from a smaller number. -/
  counts : r.valid ≤ r.configured ∧ r.valid + r.skipped = r.configured

theorem describes_spec (c : Config) :
    DescribesSpec c (ofConfig c) (.ofEntries c.ruleEntries) (Http.Service.ofConfig c).gate := by
  let filters := ((RuleSet.bound c.ruleEntries).map Rule.normalized).eraseDups
  have hgate : (Http.Service.ofConfig c).gate =
      ⟨Config.closePrefix c.topicPrefix, filters, .bounded c.queueCapacity⟩ := by
    have hofRules := Gate.ofRules_eq c.topicPrefix (.bounded c.queueCapacity)
      (RuleSet.bound c.ruleEntries)
    rwa [RuleSet.filter_normalized_bound] at hofRules
  have hsubscriptions : (ofConfig c).subscriptions =
      filters.map (Config.closePrefix c.topicPrefix ++ ·) := by
    have hvalid : (RuleSet.ofEntries c.ruleEntries).subscriptions.filter Filter.isValid =
        filters := by
      rw [RuleSet.ofEntries, RuleSet.subscriptions_ofRules, ← eraseDups_filter,
        RuleSet.filter_normalized_bound]
    rw [← hvalid]
    rfl
  have hle : (RuleSet.ofEntries c.ruleEntries).size ≤ c.ruleEntries.length := by
    rw [RuleSet.size_ofEntries]
    exact List.countP_le_length
  refine ⟨by rw [hgate]; rfl, ?_, by rw [hsubscriptions, hgate], ?_, ?_, rfl,
    RuleSet.rules_ofRules _, ?_, rfl, RuleSet.size_ofEntries _, ?_, hle, Nat.add_sub_cancel' hle⟩
  · intro topicPrefix
    have hclosed := Config.closePrefix_of_closed (Config.closed_closePrefix topicPrefix)
    exact ⟨(Gate.leadOf_eq _).symm, hclosed, by rw [Gate.leadOf_eq, Gate.leadOf_eq, hclosed]⟩
  · have hinjective : Function.Injective (Config.closePrefix c.topicPrefix ++ ·) :=
      fun k k' h => (String.append_right_inj _).mp h
    rw [hsubscriptions]
    exact List.Nodup.map hinjective (nodup_eraseDups _)
  · intro full
    rw [hsubscriptions, List.mem_map]
    constructor
    · rintro ⟨k, hk, rfl⟩
      obtain ⟨rule, hrule, rfl⟩ := List.mem_map.mp (List.mem_eraseDups.mp hk)
      exact ⟨rule, (RuleSet.rules_ofRules_perm _).mem_iff.mpr hrule, rfl⟩
    · rintro ⟨rule, hrule, rfl⟩
      have hbound := (RuleSet.rules_ofRules_perm _).mem_iff.mp hrule
      exact ⟨_, List.mem_eraseDups.mpr (List.mem_map_of_mem hbound), rfl⟩
  · intro m
    have hasked := RuleSet.selected_ofRules (RuleSet.bound c.ruleEntries) m.topic
    have hrules : (ofConfig c).rules =
        (RuleSet.ofRules (RuleSet.bound c.ruleEntries)).rules.map RuleSummary.ofRule := rfl
    rw [RuleSet.outcomes, List.map_map, RuleSet.ofEntries, hasked, hrules, List.filter_map]
    rfl
  · have hsplit := c.ruleEntries.length_eq_countP_add_countP fun e =>
      (Rule.bind e).toOption.isSome
    have hsize := RuleSet.size_ofEntries c.ruleEntries
    change c.ruleEntries.length - (RuleSet.ofEntries c.ruleEntries).size = _
    simp only [Bool.not_eq_true, Option.isSome_eq_false_iff, Bool.decide_eq_true] at hsplit
    omega

end Report

end TopicBridge
