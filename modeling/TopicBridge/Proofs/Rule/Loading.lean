import Mathlib.Algebra.Ring.Nat
import TopicBridge.Proofs.Rule.Binding
import TopicBridge.Proofs.Rule.Grouping

/-! # Loading rules

Entries are bound one after the other. A rule is added to the group of its filter, which the index
finds, and an entry without a rule is told by its position and left out. -/

namespace TopicBridge

namespace RuleSet

/-! ## Groups -/

/-- The index leads to the group of a filter and to no other. -/
theorem group?_eq_some_iff (s : RuleSet) (k : String) (g : RuleGroup) :
    s.group? k = some g ↔ g ∈ s.groups ∧ g.normalized = k := by
  rw [group?, Option.bind_eq_some_iff, List.mem_iff_getElem?]
  constructor
  · rintro ⟨i, hi, hg⟩
    have hk := (s.located k i).mp hi
    rw [List.getElem?_map, hg, Option.map_some] at hk
    exact ⟨⟨i, hg⟩, Option.some.inj hk⟩
  · rintro ⟨⟨i, hg⟩, rfl⟩
    refine ⟨i, (s.located _ i).mpr ?_, hg⟩
    rw [List.getElem?_map, hg, Option.map_some]

/-- No position in the index is beyond the groups. -/
theorem getElem_of_index (s : RuleSet) {k : String} {i : Nat} (h : s.index.get? k = some i) :
    ∃ hi : i < s.groups.length, s.groups[i].normalized = k ∧ s.group? k = some s.groups[i] := by
  obtain ⟨hi, hk⟩ := List.getElem?_eq_some_iff.mp ((s.located k i).mp h)
  rw [List.length_map] at hi
  rw [List.getElem_map] at hk
  exact ⟨hi, hk, (s.group?_eq_some_iff k _).mpr ⟨List.getElem_mem hi, hk⟩⟩

/-- What a set of rules is after rules were added to an empty one. -/
structure Grouped (rs : List Rule) (s : RuleSet) : Prop where
  order : s.subscriptions = (rs.map Rule.normalized).eraseDups
  distinct : s.subscriptions.Nodup
  nonempty : ∀ g ∈ s.groups, g.rules ≠ []
  shared : ∀ g ∈ s.groups, ∀ r ∈ g.rules, r.normalized = g.normalized
  members : ∀ g ∈ s.groups, g.rules = rs.filter (·.normalized = g.normalized)
  found : ∀ k g, s.group? k = some g ↔ g ∈ s.groups ∧ g.normalized = k
  known : ∀ k, (s.group? k).isSome ↔ ∃ r ∈ rs, r.normalized = k
  /-- What the index holds are positions of groups, both where a group is looked up and where a rule
  is added to one. -/
  inRange : ∀ k i, s.index.get? k = some i →
    ∃ hi : i < s.groups.length, s.groups[i].normalized = k ∧ s.group? k = some s.groups[i]
  size : s.size = rs.length
  sizes : s.size = (s.groups.map (·.rules.length)).sum

theorem grouped_ofRules (rs : List Rule) : Grouped rs (ofRules rs) := by
  have horder := subscriptions_ofRules rs
  have hgroup : ∀ g ∈ (ofRules rs).groups,
      g.normalized ∈ rs.map Rule.normalized ∧
        g.rules = rs.filter (·.normalized = g.normalized) := by
    intro g hg
    rw [groups_ofRules] at hg
    obtain ⟨k, hk, rfl⟩ := List.mem_map.mp hg
    exact ⟨List.mem_eraseDups.mp hk, rfl⟩
  refine ⟨horder, ?_, ?_, ?_, fun g hg => (hgroup g hg).2, group?_eq_some_iff _, ?_,
    fun k i h => getElem_of_index _ h, (rules_ofRules_perm rs).length_eq, ?_⟩
  · rw [horder]
    exact nodup_eraseDups _
  · intro g hg hnil
    obtain ⟨hk, hrules⟩ := hgroup g hg
    obtain ⟨r, hr, hrk⟩ := List.mem_map.mp hk
    rw [hrules] at hnil
    exact List.filter_eq_nil_iff.mp hnil r hr (decide_eq_true hrk)
  · intro g hg r hr
    rw [(hgroup g hg).2] at hr
    exact of_decide_eq_true (List.mem_filter.mp hr).2
  · intro k
    have hmem : k ∈ (ofRules rs).subscriptions ↔ ∃ r ∈ rs, r.normalized = k := by
      rw [horder, List.mem_eraseDups, List.mem_map]
    rw [← hmem, subscriptions, List.mem_map, Option.isSome_iff_exists]
    exact exists_congr fun g => group?_eq_some_iff _ k g
  · rw [size, rules, List.length_flatMap]

end RuleSet

/-! ## Entries -/

namespace RuleSet

variable {e : RuleEntry} {es : List RuleEntry}

theorem bound_cons_of_ok {r : Rule} (h : Rule.bind e = .ok r) : bound (e :: es) = r :: bound es := by
  simp [bound, h, Except.toOption]

theorem bound_cons_of_error {fault : RuleFault} (h : Rule.bind e = .error fault) :
    bound (e :: es) = bound es := by
  simp [bound, h, Except.toOption]

theorem bindingEvents_cons_of_ok {r : Rule} (h : Rule.bind e = .ok r) (index : Nat) :
    bindingEvents index (e :: es) = r.warnings ++ bindingEvents (index + 1) es := by
  rw [bindingEvents, h]

theorem bindingEvents_cons_of_error {fault : RuleFault} (h : Rule.bind e = .error fault)
    (index : Nat) :
    bindingEvents index (e :: es) = .ruleSkipped index :: bindingEvents (index + 1) es := by
  rw [bindingEvents, h, List.singleton_append]

end RuleSet

/-- Entries and the rules that they become: each one that has what it takes, in order. -/
inductive LoadDerivation : List RuleEntry → List Rule → Prop where
  | nil : LoadDerivation [] []
  | kept {e r es rs} (he : e.Bindable) (hr : Rule.BindDerivation e (.ok r)) :
      LoadDerivation es rs → LoadDerivation (e :: es) (r :: rs)
  | skipped {e es rs} (he : ¬ e.Bindable) : LoadDerivation es rs → LoadDerivation (e :: es) rs

theorem LoadDerivation.execution {es : List RuleEntry} {rs : List Rule}
    (h : LoadDerivation es rs) : RuleSet.bound es = rs := by
  induction h with
  | nil => rfl
  | kept he hr _ ih => rw [RuleSet.bound_cons_of_ok ((Rule.bindDerivation_iff _ _).mp hr), ih]
  | @skipped e es rs he _ ih =>
      cases hbind : Rule.bind e with
      | error fault => rw [RuleSet.bound_cons_of_error hbind, ih]
      | ok r => exact absurd ((Rule.exists_bind_eq_ok_iff e).mp ⟨r, hbind⟩) he

theorem bound_derivation (es : List RuleEntry) : LoadDerivation es (RuleSet.bound es) := by
  suffices h : ∃ rs, LoadDerivation es rs by
    obtain ⟨rs, hrs⟩ := h
    exact hrs.execution ▸ hrs
  induction es with
  | nil => exact ⟨_, .nil⟩
  | cons e es ih =>
      obtain ⟨rs, hrs⟩ := ih
      by_cases he : e.Bindable
      · obtain ⟨r, hr⟩ := (Rule.exists_bind_eq_ok_iff e).mpr he
        exact ⟨_, .kept he ((Rule.bindDerivation_iff e _).mpr hr) hrs⟩
      · exact ⟨_, .skipped he hrs⟩

theorem loadDerivation_iff (es : List RuleEntry) (rs : List Rule) :
    LoadDerivation es rs ↔ RuleSet.bound es = rs := by
  refine ⟨LoadDerivation.execution, ?_⟩
  intro h
  exact h ▸ bound_derivation es

/-! ## The loop over entries -/

/-- The rules so far, what was told about them, and the position of the next entry. -/
structure Loading where
  set : RuleSet
  events : List Event
  index : Nat

namespace Loading

/-- Binds an entry and adds its rule, or leaves it out. -/
def take (l : Loading) (e : RuleEntry) : Loading :=
  match Rule.bind e with
  | .ok r => ⟨l.set.add r, l.events ++ r.warnings, l.index + 1⟩
  | .error _ => ⟨l.set, l.events ++ [.ruleSkipped l.index], l.index + 1⟩

/-- The loop comes to the set of the bound rules and to what is told about all entries. -/
theorem foldl_take (es : List RuleEntry) (rs : List Rule) (events : List Event) (index : Nat) :
    es.foldl take ⟨.ofRules rs, events, index⟩ =
      ⟨.ofRules (rs ++ RuleSet.bound es), events ++ RuleSet.bindingEvents index es,
        index + es.length⟩ := by
  induction es generalizing rs events index with
  | nil => simp [RuleSet.bound, RuleSet.bindingEvents]
  | cons e es ih =>
      have hindex : index + 1 + es.length = index + (e :: es).length := by
        rw [List.length_cons]
        omega
      rw [List.foldl_cons, take, ← hindex]
      cases hbind : Rule.bind e with
      | error fault =>
          simp only [ih, RuleSet.bound_cons_of_error hbind,
            RuleSet.bindingEvents_cons_of_error hbind, List.append_assoc, List.singleton_append]
      | ok r =>
          simp only [← RuleSet.ofRules_append_singleton, ih, RuleSet.bound_cons_of_ok hbind,
            RuleSet.bindingEvents_cons_of_ok hbind, List.append_assoc, List.singleton_append]

end Loading

theorem Rule.ruleSkipped_not_mem_warnings (r : Rule) (i : Nat) : .ruleSkipped i ∉ r.warnings := by
  intro h
  cases (r.mem_warnings_iff _).mp h

/-- An entry that is left out is told by its position. -/
theorem RuleSet.ruleSkipped_mem_bindingEvents (es : List RuleEntry) (index i : Nat) :
    .ruleSkipped i ∈ bindingEvents index es ↔
      ∃ j e, i = index + j ∧ es[j]? = some e ∧ ¬ e.Bindable := by
  induction es generalizing index with
  | nil => simp [bindingEvents]
  | cons e es ih =>
      have hsplit : (∃ j e', i = index + j ∧ (e :: es)[j]? = some e' ∧ ¬ e'.Bindable) ↔
          (i = index ∧ ¬ e.Bindable) ∨
            ∃ j e', i = index + 1 + j ∧ es[j]? = some e' ∧ ¬ e'.Bindable := by
        constructor
        · rintro ⟨j, e', rfl, hj, he⟩
          cases j with
          | zero => exact .inl ⟨rfl, Option.some.inj hj ▸ he⟩
          | succ j => exact .inr ⟨j, e', by omega, hj, he⟩
        · rintro (⟨rfl, he⟩ | ⟨j, e', rfl, hj, he⟩)
          · exact ⟨0, e, rfl, rfl, he⟩
          · exact ⟨j + 1, e', by omega, hj, he⟩
      rw [hsplit, ← ih, ← Rule.exists_bind_eq_ok_iff]
      cases hbind : Rule.bind e with
      | error fault => simp [bindingEvents_cons_of_error hbind]
      | ok r => simp [bindingEvents_cons_of_ok hbind, r.ruleSkipped_not_mem_warnings i]

namespace RuleSet

/-- What loading makes of entries, and what it makes of rules that are given. -/
structure LoadingSpec (es : List RuleEntry) : Prop where
  binding : ∀ e o, Rule.BindDerivation e o ↔ Rule.bind e = o
  kept : ∀ e, (∃ r, Rule.bind e = .ok r) ↔ e.Bindable
  loading : ∀ rs, LoadDerivation es rs ↔ bound es = rs
  grouped : Grouped (bound es) (ofEntries es)
  loop : es.foldl Loading.take ⟨.empty, [], 0⟩ = ⟨ofEntries es, bindingEvents 0 es, es.length⟩
  skipped : ∀ i, .ruleSkipped i ∈ bindingEvents 0 es ↔ ∃ e, es[i]? = some e ∧ ¬ e.Bindable
  valid : ∀ k ∈ (ofEntries es).subscriptions, Filter.isValid k
  /-- Rules that are added in any other way are grouped alike. -/
  added : ∀ rs : List Rule, Grouped rs (rs.foldl add .empty)

theorem loading_spec (es : List RuleEntry) : LoadingSpec es := by
  refine ⟨Rule.bindDerivation_iff, Rule.exists_bind_eq_ok_iff, loadDerivation_iff es,
    grouped_ofRules _, ?_, ?_, ?_, grouped_ofRules⟩
  · have hloop := Loading.foldl_take es [] [] 0
    rw [List.nil_append, List.nil_append, Nat.zero_add] at hloop
    exact hloop
  · intro i
    rw [ruleSkipped_mem_bindingEvents]
    constructor
    · rintro ⟨j, e, hi, hj, he⟩
      rw [Nat.zero_add] at hi
      exact ⟨e, hi ▸ hj, he⟩
    · rintro ⟨e, hi, he⟩
      exact ⟨i, e, (Nat.zero_add i).symm, hi, he⟩
  · intro k hk
    rw [ofEntries, subscriptions_ofRules, List.mem_eraseDups] at hk
    obtain ⟨r, hr, rfl⟩ := List.mem_map.mp hk
    exact isValid_of_mem_bound hr

end RuleSet
end TopicBridge
