import TopicBridge.Rule.Binding

/-! # Groups of rules

Rules with the same subscription filter form a group. Groups stand in the order in which their first
rule came, and the rules of a group in the order in which they came.
-/

namespace TopicBridge

/-- Rules with the same subscription filter. -/
structure RuleGroup where
  normalized : String
  rules : List Rule
  deriving DecidableEq, Repr

/-- Puts a rule behind the rules of a group. -/
def RuleGroup.push (g : RuleGroup) (r : Rule) : RuleGroup := { g with rules := g.rules ++ [r] }

/-- An index holds the position of each filter and nothing else. -/
def Locates (index : Table Nat) (filters : List String) : Prop :=
  ∀ filter i, index.get? filter = some i ↔ filters[i]? = some filter

namespace Locates

theorem empty : Locates .empty [] := by
  intro filter i
  simp [Table.get?_empty]

/-- A filter without a position is found at the end once it stands there. -/
theorem append {index : Table Nat} {filters : List String} (h : Locates index filters)
    {filter : String} (hnew : index.get? filter = none) :
    Locates (index.insert filter filters.length) (filters ++ [filter]) := by
  intro other i
  rw [Table.get?_insert, List.getElem?_append]
  by_cases hi : i < filters.length
  · rw [if_pos hi, ← h other i]
    by_cases heq : filter = other
    · subst heq
      simp [hnew, Nat.ne_of_gt hi]
    · rw [if_neg heq]
  · rw [if_neg hi]
    by_cases heq : filter = other
    · subst heq
      rw [if_pos rfl, List.getElem?_singleton, Option.some_inj]
      constructor
      · intro hend
        simp [hend]
      · intro hend
        have hz : i - filters.length = 0 := by
          split at hend
          · assumption
          · cases hend
        omega
    · rw [if_neg heq, h other i, List.getElem?_eq_none (Nat.le_of_not_lt hi),
        List.getElem?_singleton]
      split <;> simp [heq]

end Locates

/-- Rules in groups, with the position of the group of each filter. -/
structure RuleSet where
  groups : List RuleGroup
  index : Table Nat
  located : Locates index (groups.map (·.normalized))
  deriving DecidableEq, Repr

namespace RuleSet

/-- No rules. -/
def empty : RuleSet := ⟨[], .empty, .empty⟩

/-- Putting a rule into a group leaves the filters where they are. -/
theorem filters_modify (groups : List RuleGroup) (i : Nat) (r : Rule) :
    (groups.modify i (·.push r)).map (·.normalized) = groups.map (·.normalized) := by
  apply List.ext_getElem?
  intro j
  rw [List.getElem?_map, List.getElem?_map, List.getElem?_modify]
  cases groups[j]? with
  | none => rfl
  | some g => by_cases hj : i = j <;> simp [hj, RuleGroup.push]

/-- Adds a rule to the group that the index holds, or in a new group at the end. -/
def add (s : RuleSet) (r : Rule) : RuleSet :=
  match h : s.index.get? r.normalized with
  | some i =>
    ⟨s.groups.modify i (·.push r), s.index, by rw [filters_modify]; exact s.located⟩
  | none =>
    ⟨s.groups ++ [⟨r.normalized, [r]⟩], s.index.insert r.normalized s.groups.length, by
      have hend := s.located.append h
      rw [List.length_map] at hend
      rw [List.map_append]
      exact hend⟩

/-- The rules of a list in groups. -/
def ofRules (rs : List Rule) : RuleSet := rs.foldl add empty

/-- The rules that entries are bound to; the others are left out. -/
def bound (entries : List RuleEntry) : List Rule :=
  entries.filterMap fun e => (Rule.bind e).toOption

/-- Binds entries and groups the rules. -/
def ofEntries (entries : List RuleEntry) : RuleSet := ofRules (bound entries)

/-- What is told about binding entries, numbered from `index` on. -/
def bindingEvents : (index : Nat) → List RuleEntry → List Event
  | _, [] => []
  | index, e :: es =>
    (match Rule.bind e with
      | .ok r => r.warnings
      | .error _ => [.ruleSkipped index]) ++ bindingEvents (index + 1) es

/-- All rules, group by group. -/
def rules (s : RuleSet) : List Rule := s.groups.flatMap (·.rules)

/-- The number of rules. -/
def size (s : RuleSet) : Nat := s.rules.length

/-- Whether there are no rules. -/
def isEmpty (s : RuleSet) : Bool := s.groups.isEmpty

/-- The group with a filter. -/
def group? (s : RuleSet) (normalized : String) : Option RuleGroup :=
  (s.index.get? normalized).bind (s.groups[·]?)

/-- The filters of the groups in order. -/
def subscriptions (s : RuleSet) : List String := s.groups.map (·.normalized)

end RuleSet

end TopicBridge
