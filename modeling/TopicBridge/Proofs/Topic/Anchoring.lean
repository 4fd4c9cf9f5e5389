import TopicBridge.Proofs.Regex.Closing.Reading
import TopicBridge.Proofs.Regex.Preference
import TopicBridge.Topic.Validator

/-! # What a validator accepts

The rule of a validator is set between `^(?:` and `)` as text. The outcome is the rule bound to the
start of the level, if the rule neither closes the group nor ends in a comment. -/

namespace TopicBridge.Validator

open Regex

/-- What the front of an anchored rule leaves around the rule. -/
def front : Regex.Frame := ⟨[⟨.look .textStart, 0, false⟩], [], {}⟩

theorem read?_anchored (s : List Char) : read? (anchored s) = readWithin? front s := by
  -- two constructs stand in front of the rule: the assertion and the front of the group
  have hcaret : (State.start (anchored s)).step =
      some ⟨'(' :: '?' :: ':' :: (s ++ [')']), {}, [], [⟨.look .textStart, 0, false⟩], [], []⟩ :=
    rfl
  have hopen : State.step
      ⟨'(' :: '?' :: ':' :: (s ++ [')']), {}, [], [⟨.look .textStart, 0, false⟩], [], []⟩ =
      some (((State.start s).on (s ++ [')'])).under [front]) := rfl
  rw [read?, State.outcome_eq_bind_step _ (List.cons_ne_nil _ _), hcaret, Option.bind_some,
    State.outcome_eq_bind_step _ (List.cons_ne_nil _ _), hopen, Option.bind_some, readWithin?]

theorem closing_front (item : Regex.Item) :
    front.closing item = ⟨.cat (.look .textStart) item.regex, item.depth + 2, false⟩ := by
  have hdepth : max (max 0 (item.depth + 1)) 0 + 1 = item.depth + 2 := by omega
  rw [← hdepth]
  rfl

/-- The rule and the anchor together keep to the limits of expressions. -/
def WithinLimits (item : Regex.Item) : Prop :=
  item.depth + 2 ≤ depthLimit ∧ 24 + item.regex.room ≤ roomLimit

instance (item : Regex.Item) : Decidable (WithinLimits item) :=
  inferInstanceAs (Decidable (_ ∧ _))

theorem ofRule?_eq (rule : String) :
    ofRule? rule = (readWithin? front rule.toList).bind fun item =>
      if item.depth ≤ depthLimit ∧ item.regex.room ≤ roomLimit then some ⟨rule, item.regex⟩
      else none := by
  rw [ofRule?, parse?_eq, read?_anchored]
  cases readWithin? front rule.toList with
  | none => rfl
  | some item =>
      rw [Option.bind_some, Option.bind_some, apply_ite (Option.map _)]
      rfl

theorem ofRule?_of_not_endsInComment {rule : String} {item : Regex.Item}
    (h : read? rule.toList = some item) (hcomment : ¬EndsInComment rule.toList) :
    ofRule? rule =
      if WithinLimits item then some ⟨rule, .cat (.look .textStart) item.regex⟩ else none := by
  rw [ofRule?_eq, readWithin?_of_not_endsInComment h hcomment, Option.bind_some, closing_front]
  rfl

/-- An anchored rule is found where the rule matches from the front, or nowhere. -/
theorem search_anchored (r : Regex) (text : List Char) :
    search (.cat (.look .textStart) r) text = matchAt r none 0 text := by
  rw [search_textStart, matchAt_eq]
  rfl

/-- How the validator of a rule relates to the rule on its own. -/
structure AnchoringSpec (rule : String) : Prop where
  /-- A well-formed rule that does not end in a comment is taken within the limits. -/
  taken : ∀ item, read? rule.toList = some item → ¬EndsInComment rule.toList →
    ((ofRule? rule).isSome ↔ WithinLimits item)
  /-- A rule that ends in a comment is refused, however well formed. -/
  comment : EndsInComment rule.toList → ofRule? rule = none ∧ LastLineSign rule.toList
  /-- A malformed rule is taken only if it closes the group it is set in. -/
  malformed : read? rule.toList = none → (ofRule? rule).isSome → Overcloses rule.toList
  /-- Such a rule holds a parenthesis and is malformed on its own. -/
  overcloses : Overcloses rule.toList → read? rule.toList = none ∧ ')' ∈ rule.toList
  /-- The validator of a well-formed rule accepts what the rule matches from the front. -/
  accepts : ∀ item v, read? rule.toList = some item → ofRule? rule = some v →
    ∀ text : String, v.accepts text = (matchAt item.regex none 0 text.toList).isSome
  /-- Without parentheses to close and comment signs a rule is taken if it is well formed. -/
  plain : ')' ∉ rule.toList → '#' ∉ rule.toList →
    ((ofRule? rule).isSome ↔ ∃ item, read? rule.toList = some item ∧ WithinLimits item)

theorem overcloses_of_isSome_ofRule? {rule : String} (h : read? rule.toList = none)
    (hsome : (ofRule? rule).isSome) : Overcloses rule.toList := by
  rw [ofRule?_eq] at hsome
  cases hwithin : readWithin? front rule.toList with
  | none =>
      rw [hwithin] at hsome
      cases hsome
  | some item => exact overcloses_of_readWithin? h (Option.isSome_of_eq_some hwithin)

theorem isSome_ofRule?_iff {rule : String} {item : Regex.Item} (h : read? rule.toList = some item)
    (hcomment : ¬EndsInComment rule.toList) : (ofRule? rule).isSome ↔ WithinLimits item := by
  rw [ofRule?_of_not_endsInComment h hcomment]
  split_ifs with hlimits
  · exact iff_of_true rfl hlimits
  · exact iff_of_false (by simp) hlimits

theorem ofRule?_of_endsInComment {rule : String} (h : EndsInComment rule.toList) :
    ofRule? rule = none := by
  rw [ofRule?_eq, readWithin?_of_endsInComment h]
  rfl

theorem anchoring_spec (rule : String) : AnchoringSpec rule where
  taken item h hcomment := isSome_ofRule?_iff h hcomment
  comment h := ⟨ofRule?_of_endsInComment h, h.lastLineSign⟩
  malformed h hsome := overcloses_of_isSome_ofRule? h hsome
  overcloses h := ⟨h.read?_eq_none, h.parenthesis_mem⟩
  accepts item v h hv text := by
    have hcomment : ¬EndsInComment rule.toList := by
      intro hcomment
      rw [ofRule?_of_endsInComment hcomment] at hv
      cases hv
    rw [ofRule?_of_not_endsInComment h hcomment] at hv
    split_ifs at hv
    rw [← Option.some.inj hv, Validator.accepts, isMatch, search_anchored]
  plain hparenthesis hsign := by
    have hcomment : ¬EndsInComment rule.toList := by
      intro hcomment
      obtain ⟨before, behind, hrule, -⟩ := hcomment.lastLineSign
      exact hsign (by simp [hrule])
    constructor
    · intro hsome
      cases hread : read? rule.toList with
      | none => exact absurd (overcloses_of_isSome_ofRule? hread hsome).parenthesis_mem hparenthesis
      | some item => exact ⟨item, rfl, (isSome_ofRule?_iff hread hcomment).mp hsome⟩
    · rintro ⟨item, hread, hlimits⟩
      exact (isSome_ofRule?_iff hread hcomment).mpr hlimits

/-- `a)|(b` is no expression, and its validator accepts `xb` for the `b` behind the front. The
comment of `(?x)a#b` swallows the end of the group. -/
theorem unanchored_rules :
    (parse? "a)|(b".toList = none ∧
      ∃ v, ofRule? "a)|(b" = some v ∧ v.accepts "xb" = true ∧
        matchAt v.expr none 0 "xb".toList = none) ∧
    ((parse? "(?x)a#b".toList).isSome ∧ ofRule? "(?x)a#b" = none) := by
  exact ⟨⟨by decide, _, rfl, by decide, by decide⟩, by decide, by decide⟩

end TopicBridge.Validator
