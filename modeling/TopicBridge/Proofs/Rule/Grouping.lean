import Mathlib.Data.List.Induction
import TopicBridge.Proofs.FirstOccurrence
import TopicBridge.Dispatch

/-! # Grouped rules

Rules that are added one after the other stand in one group for each filter. The groups are in the
order in which the filters came first, and each holds the rules with its filter in their order. -/

namespace TopicBridge.RuleSet

theorem mem_subscriptions_iff (s : RuleSet) (filter : String) :
    filter ∈ s.subscriptions ↔ ∃ i, s.index.get? filter = some i := by
  rw [subscriptions, List.mem_iff_getElem?]
  exact exists_congr fun i => (s.located filter i).symm

/-- Adding a rule by position is adding it by filter. -/
theorem groups_add (s : RuleSet) (r : Rule) :
    (s.add r).groups =
      if r.normalized ∈ s.subscriptions then
        s.groups.map fun g => if g.normalized = r.normalized then g.push r else g
      else s.groups ++ [⟨r.normalized, [r]⟩] := by
  rw [add]
  split
  · next i hi =>
      rw [if_pos ((s.mem_subscriptions_iff _).mpr ⟨i, hi⟩)]
      apply List.ext_getElem?
      intro j
      rw [List.getElem?_modify, List.getElem?_map]
      cases hg : s.groups[j]? with
      | none => rfl
      | some g =>
          -- the index holds one position of the filter, so only this group has it
          have hfilter : (s.groups.map (·.normalized))[j]? = some g.normalized := by
            rw [List.getElem?_map, hg, Option.map_some]
          have hat : i = j ↔ g.normalized = r.normalized := by
            constructor
            · intro hij
              subst hij
              rw [(s.located _ _).mp hi] at hfilter
              exact (Option.some.inj hfilter).symm
            · intro heq
              rw [heq, ← s.located, hi] at hfilter
              exact Option.some.inj hfilter
          by_cases hij : i = j
          · simp [hij, hat.mp hij]
          · simp [hij, mt hat.mpr hij]
  · next hi => rw [if_neg (by simp [mem_subscriptions_iff, hi])]

theorem ofRules_append_singleton (rs : List Rule) (r : Rule) :
    ofRules (rs ++ [r]) = (ofRules rs).add r := by
  simp [ofRules]

theorem groups_ofRules (rs : List Rule) :
    (ofRules rs).groups =
      (rs.map Rule.normalized).eraseDups.map fun k => ⟨k, rs.filter (·.normalized = k)⟩ := by
  induction rs using List.reverseRecOn with
  | nil => rfl
  | append_singleton rs r ih =>
      have hfilters : (ofRules rs).subscriptions = (rs.map Rule.normalized).eraseDups := by
        simp [subscriptions, ih, Function.comp_def]
      rw [ofRules_append_singleton, groups_add, hfilters, ih, List.map_append, List.map_singleton,
        eraseDups_append_singleton]
      simp only [List.mem_eraseDups]
      split
      · rw [List.map_map]
        apply List.map_congr_left
        intro k _
        by_cases hk : r.normalized = k
        · simp [hk, RuleGroup.push, List.filter_append]
        · simp [hk, Ne.symm hk, List.filter_append]
      · next hnew =>
          have hold : ∀ k ∈ (rs.map Rule.normalized).eraseDups, r.normalized ≠ k :=
            fun k hk h => hnew (h ▸ List.mem_eraseDups.mp hk)
          have hnone : rs.filter (·.normalized = r.normalized) = [] := by
            refine List.filter_eq_nil_iff.mpr fun q hq h => hnew ?_
            exact of_decide_eq_true h ▸ List.mem_map_of_mem hq
          rw [List.map_append]
          congr 1
          · apply List.map_congr_left
            intro k hk
            simp [List.filter_append, hold k hk]
          · simp [List.filter_append, hnone]

theorem subscriptions_ofRules (rs : List Rule) :
    (ofRules rs).subscriptions = (rs.map Rule.normalized).eraseDups := by
  simp [subscriptions, groups_ofRules, Function.comp_def]

/-- The rules in the order in which they are asked. -/
theorem rules_ofRules (rs : List Rule) :
    (ofRules rs).rules =
      (rs.map Rule.normalized).eraseDups.flatMap fun k => rs.filter (·.normalized = k) := by
  rw [rules, groups_ofRules, List.flatMap_map]

theorem rules_add_perm (s : RuleSet) (r : Rule) : (s.add r).rules.Perm (s.rules ++ [r]) := by
  rw [rules, rules, add]
  split
  · next i hi =>
      have hlt : i < s.groups.length := by
        have hfilter := (s.located _ _).mp hi
        simpa using (List.getElem?_eq_some_iff.mp hfilter).1
      obtain ⟨before, g, others, hgroups, -, hmodified⟩ := List.exists_of_modify (·.push r) hlt
      simp only [hmodified]
      rw [hgroups]
      simp only [List.flatMap_append, List.flatMap_cons, RuleGroup.push, List.append_assoc]
      exact (List.perm_append_comm.append_left g.rules).append_left _
  · simp

/-- Grouping neither loses nor repeats a rule. -/
theorem rules_ofRules_perm (rs : List Rule) : (ofRules rs).rules.Perm rs := by
  induction rs using List.reverseRecOn with
  | nil => exact List.Perm.nil
  | append_singleton rs r ih =>
      rw [ofRules_append_singleton]
      exact (rules_add_perm _ r).trans (ih.append_right [r])

/-- A group is asked as a whole, and its filter is the one of each of its rules. -/
theorem selected_ofRules (rs : List Rule) (topic : String) :
    (ofRules rs).selected topic =
      (ofRules rs).rules.filter fun r => Filter.selects r.normalized topic := by
  rw [selected, rules_ofRules, groups_ofRules]
  induction (rs.map Rule.normalized).eraseDups with
  | nil => rfl
  | cons k filters ih =>
      have hgroup : (rs.filter (·.normalized = k)).filter
            (fun r => Filter.selects r.normalized topic) =
          if Filter.selects k topic then rs.filter (·.normalized = k) else [] := by
        split
        · next hk =>
            rw [List.filter_eq_self]
            intro r hr
            rw [of_decide_eq_true (List.mem_filter.mp hr).2, hk]
        · next hk =>
            rw [List.filter_eq_nil_iff]
            intro r hr
            rwa [of_decide_eq_true (List.mem_filter.mp hr).2]
      rw [List.map_cons, List.filter_cons, List.flatMap_cons, List.filter_append, hgroup, ← ih]
      split
      · rw [List.flatMap_cons]
      · rw [List.nil_append]

end TopicBridge.RuleSet
