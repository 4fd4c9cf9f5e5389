import TopicBridge.Dispatch

/-! # Dispatching as a loop

A message goes through the groups and through the rules of each group that is for its topic. What
is known so far is added to at every rule. -/

namespace TopicBridge

/-- The records and the counts so far. -/
structure Dispatching where
  records : List Dispatched
  report : DispatchReport

namespace Dispatching

/-- Before the first rule. -/
def start : Dispatching := ⟨[], ⟨0, 0, 0, 0⟩⟩

/-- Asks a rule. -/
def ask (m : Message) (d : Dispatching) (rule : Rule) : Dispatching :=
  if m.retain && !rule.retain then
    { d with report.skippedRetained := d.report.skippedRetained + 1 }
  else
    match rule.pattern.parse m.topic with
    | .rejected .. => { d with report.rejected := d.report.rejected + 1 }
    | .captured captures =>
      match rule.record m.payload captures with
      | .ok record => { d with records := d.records ++ [⟨rule, record⟩] }
      | .error _ => { d with report.failed := d.report.failed + 1 }

/-- Asks the rules of a group. -/
def askGroup (m : Message) (d : Dispatching) (g : RuleGroup) : Dispatching :=
  g.rules.foldl (ask m) d

/-- Adds an outcome. -/
def add (d : Dispatching) (rule : Rule) : Outcome → Dispatching
  | .skipped => { d with report.skippedRetained := d.report.skippedRetained + 1 }
  | .rejected .. => { d with report.rejected := d.report.rejected + 1 }
  | .failed _ => { d with report.failed := d.report.failed + 1 }
  | .built record => { d with records := d.records ++ [⟨rule, record⟩] }

/-- What a list of outcomes amounts to while records are not yet counted. -/
def after (os : List (Rule × Outcome)) : Dispatching :=
  ⟨RuleSet.recordsOf os, { DispatchReport.ofOutcomes (os.map (·.2)) with records := 0 }⟩

theorem ask_eq_add (m : Message) (d : Dispatching) (rule : Rule) :
    ask m d rule = d.add rule (rule.evaluate m) := by
  rw [ask, Rule.evaluate]
  split
  · rfl
  · cases rule.pattern.parse m.topic with
    | rejected token text tokenRule => rfl
    | captured captures =>
        simp only
        cases rule.record m.payload captures <;> rfl

theorem add_after (os : List (Rule × Outcome)) (rule : Rule) (o : Outcome) :
    (after os).add rule o = after (os ++ [(rule, o)]) := by
  cases o <;>
    simp [add, after, RuleSet.recordsOf, DispatchReport.ofOutcomes, List.countP_append,
      Outcome.record?, Outcome.isSkipped, Outcome.isRejected, Outcome.isFailed]

theorem foldl_ask (m : Message) (rules : List Rule) (os : List (Rule × Outcome)) :
    rules.foldl (ask m) (after os) =
      after (os ++ rules.map fun rule => (rule, rule.evaluate m)) := by
  induction rules generalizing os with
  | nil => simp
  | cons rule rules ih =>
      rw [List.foldl_cons, ask_eq_add, add_after, ih, List.map_cons, List.append_assoc,
        List.singleton_append]

theorem foldl_askGroup (m : Message) (groups : List RuleGroup) (os : List (Rule × Outcome)) :
    groups.foldl (askGroup m) (after os) =
      after (os ++ (groups.flatMap (·.rules)).map fun rule => (rule, rule.evaluate m)) := by
  induction groups generalizing os with
  | nil => simp
  | cons g groups ih =>
      rw [List.foldl_cons, askGroup, foldl_ask, ih, List.flatMap_cons, List.map_append,
        List.append_assoc]

end Dispatching

/-- The records of a message and the counts of its outcomes. -/
def RuleSet.dispatchWithReport (s : RuleSet) (m : Message) : List Dispatched × DispatchReport :=
  let groups := s.groups.filter fun g => Filter.selects g.normalized m.topic
  let done := groups.foldl (Dispatching.askGroup m) .start
  (done.records, { done.report with records := done.records.length })

/-- The loop comes to the records and the report of the outcomes. -/
theorem RuleSet.dispatchWithReport_eq (s : RuleSet) (m : Message) :
    s.dispatchWithReport m = (s.dispatch m, s.report m) := by
  have hloop := Dispatching.foldl_askGroup m
    (s.groups.filter fun g => Filter.selects g.normalized m.topic) []
  have hlength : ∀ os : List (Rule × Outcome),
      (recordsOf os).length = ((os.map (·.2)).filterMap Outcome.record?).length := by
    intro os
    rw [recordsOf, List.filterMap_map, List.length_filterMap_eq_countP,
      List.length_filterMap_eq_countP]
    simp
  rw [dispatchWithReport, show Dispatching.start = .after [] from rfl, hloop]
  simp only [List.nil_append]
  rw [dispatch, report, outcomes, selected, Dispatching.after, hlength]
  rfl

end TopicBridge
