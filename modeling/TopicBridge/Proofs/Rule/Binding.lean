import TopicBridge.Proofs.Topic.LineUp
import TopicBridge.Rule.Group

/-! # Entries that become rules

An entry is bound if it has a topic, the pattern of the topic compiles to a filter that can be
subscribed to, and the rules of its tokens are well formed. Otherwise the first of these that it
lacks is its fault. -/

namespace TopicBridge

/-- The rule of a token is well formed, if there is one. -/
def TokenEntry.IsWellFormed (t : TokenEntry) : Prop :=
  ∀ rule, t.rule = some rule → (Validator.ofRule? rule).isSome

namespace Rule

/-! ## Token rules -/

/-- The validators that tokens ask for. -/
def validatorsOf (entries : List (String × TokenEntry)) : List (String × Validator) :=
  entries.filterMap fun (name, t) => (t.rule.bind Validator.ofRule?).map (name, ·)

theorem addValidators_of_wellFormed (p : Pattern) {entries : List (String × TokenEntry)}
    (h : ∀ e ∈ entries, e.2.IsWellFormed) :
    addValidators p entries =
      .ok { p with validators := p.validators.insertAll (validatorsOf entries) } := by
  induction entries generalizing p with
  | nil => rfl
  | cons entry entries ih =>
      obtain ⟨name, t⟩ := entry
      have hrest := fun q => @ih q fun e he => h e (List.mem_cons_of_mem _ he)
      cases hrule : t.rule with
      | none => simp [addValidators, hrule, hrest, validatorsOf]
      | some rule =>
          obtain ⟨v, hv⟩ := Option.isSome_iff_exists.mp (h _ List.mem_cons_self rule hrule)
          simp [addValidators, hrule, hrest, validatorsOf, Pattern.addValidator, hv,
            Table.insertAll]

theorem addValidators_of_malformed (p : Pattern) {before after : List (String × TokenEntry)}
    {name rule : String} {t : TokenEntry} (hb : ∀ e ∈ before, e.2.IsWellFormed)
    (ht : t.rule = some rule) (hv : Validator.ofRule? rule = none) :
    addValidators p (before ++ (name, t) :: after) = .error (.invalidRule name rule) := by
  induction before generalizing p with
  | nil => simp [addValidators, ht, Pattern.addValidator, hv]
  | cons entry before ih =>
      obtain ⟨name', t'⟩ := entry
      have hrest := fun q => @ih q fun e he => hb e (List.mem_cons_of_mem _ he)
      cases hrule : t'.rule with
      | none => simp [addValidators, hrule, hrest]
      | some rule' =>
          obtain ⟨v, hv'⟩ := Option.isSome_iff_exists.mp (hb _ List.mem_cons_self rule' hrule)
          simp [addValidators, hrule, hrest, Pattern.addValidator, hv']

/-- Either all tokens are well formed, or there is a first one that is not. -/
theorem wellFormed_or_first_malformed (entries : List (String × TokenEntry)) :
    (∀ e ∈ entries, e.2.IsWellFormed) ∨
      ∃ before name t rule after, entries = before ++ (name, t) :: after ∧
        (∀ e ∈ before, e.2.IsWellFormed) ∧ t.rule = some rule ∧ Validator.ofRule? rule = none := by
  induction entries with
  | nil => exact .inl (by simp)
  | cons entry entries ih =>
      obtain ⟨name, t⟩ := entry
      by_cases ht : t.IsWellFormed
      · rcases ih with ih | ⟨before, name', t', rule, after, rfl, hb, hrule, hv⟩
        · exact .inl (List.forall_mem_cons.mpr ⟨ht, ih⟩)
        · exact .inr ⟨(name, t) :: before, name', t', rule, after, rfl,
            List.forall_mem_cons.mpr ⟨ht, hb⟩, hrule, hv⟩
      · simp only [TokenEntry.IsWellFormed, Classical.not_forall,
          Option.not_isSome_iff_eq_none] at ht
        obtain ⟨rule, hrule, hv⟩ := ht
        exact .inr ⟨[], name, t, rule, entries, rfl, by simp, hrule, hv⟩

/-! ## Entries -/

/-- What binding an entry comes to, fault by fault in the order in which they are looked for. -/
inductive BindDerivation (e : RuleEntry) : Except RuleFault Rule → Prop where
  | noTopic (ht : e.topic = none) : BindDerivation e (.error .noTopic)
  | pattern {topic fault} (ht : e.topic = some topic)
      (hp : Pattern.compile topic = .error fault) : BindDerivation e (.error (.pattern fault))
  | unsubscribable {topic p} (ht : e.topic = some topic) (hp : Pattern.compile topic = .ok p)
      (hf : Filter.isValid p.normalized = false) :
      BindDerivation e (.error (.unsubscribable p.normalized))
  | tokenRule {topic p} (ht : e.topic = some topic) (hp : Pattern.compile topic = .ok p)
      (hf : Filter.isValid p.normalized) {before name t rule after}
      (hs : (e.tokens.getD .empty).entries = before ++ (name, t) :: after)
      (hb : ∀ entry ∈ before, entry.2.IsWellFormed) (hr : t.rule = some rule)
      (hv : Validator.ofRule? rule = none) :
      BindDerivation e (.error (.pattern (.invalidRule name rule)))
  | bound {topic p} (ht : e.topic = some topic) (hp : Pattern.compile topic = .ok p)
      (hf : Filter.isValid p.normalized)
      (hs : ∀ entry ∈ (e.tokens.getD .empty).entries, entry.2.IsWellFormed) :
      BindDerivation e (.ok (ofEntry e { p with
        validators := .ofList (validatorsOf (e.tokens.getD .empty).entries) }))

theorem BindDerivation.execution {e : RuleEntry} {o : Except RuleFault Rule}
    (h : BindDerivation e o) : bind e = o := by
  cases h with
  | noTopic ht => simp [bind, ht]
  | pattern ht hp => simp [bind, ht, hp]
  | unsubscribable ht hp hf => simp [bind, ht, hp, hf]
  | @tokenRule topic p ht hp hf before name t rule after hs hb hr hv =>
      simp [bind, ht, hp, hf, complete, hs, addValidators_of_malformed p hb hr hv, Except.map]
  | @bound topic p ht hp hf hs =>
      have hempty : p.validators = .empty := by rw [Pattern.eq_of_compile hp]
      simp [bind, ht, hp, hf, complete, addValidators_of_wellFormed p hs, Except.map, hempty,
        Table.ofList]

theorem bind_derivation (e : RuleEntry) : BindDerivation e (bind e) := by
  suffices h : ∃ o, BindDerivation e o by
    obtain ⟨o, ho⟩ := h
    exact ho.execution ▸ ho
  cases ht : e.topic with
  | none => exact ⟨_, .noTopic ht⟩
  | some topic =>
      cases hp : Pattern.compile topic with
      | error fault => exact ⟨_, .pattern ht hp⟩
      | ok p =>
          cases hf : Filter.isValid p.normalized with
          | false => exact ⟨_, .unsubscribable ht hp hf⟩
          | true =>
              rcases wellFormed_or_first_malformed (e.tokens.getD .empty).entries with
                hs | ⟨before, name, t, rule, after, hs, hb, hr, hv⟩
              · exact ⟨_, .bound ht hp hf hs⟩
              · exact ⟨_, .tokenRule ht hp hf hs hb hr hv⟩

theorem bindDerivation_iff (e : RuleEntry) (o : Except RuleFault Rule) :
    BindDerivation e o ↔ bind e = o := by
  refine ⟨BindDerivation.execution, ?_⟩
  intro h
  exact h ▸ bind_derivation e

end Rule

/-- What an entry has to have to become a rule. -/
def RuleEntry.Bindable (e : RuleEntry) : Prop :=
  (∃ topic p, e.topic = some topic ∧ Pattern.compile topic = .ok p ∧
    Filter.isValid p.normalized) ∧
  ∀ entry ∈ (e.tokens.getD .empty).entries, entry.2.IsWellFormed

namespace Rule

theorem exists_bind_eq_ok_iff (e : RuleEntry) : (∃ r, bind e = .ok r) ↔ e.Bindable := by
  constructor
  · rintro ⟨r, hr⟩
    cases (bindDerivation_iff e (.ok r)).mpr hr with
    | bound ht hp hf hs => exact ⟨⟨_, _, ht, hp, hf⟩, hs⟩
  · rintro ⟨⟨topic, p, ht, hp, hf⟩, hs⟩
    exact ⟨_, (BindDerivation.bound ht hp hf hs).execution⟩

/-- A rule that an entry is bound to can be subscribed to. -/
theorem isValid_of_bind {e : RuleEntry} {r : Rule} (h : bind e = .ok r) :
    Filter.isValid r.normalized := by
  cases (bindDerivation_iff e (.ok r)).mpr h with
  | bound ht hp hf hs => exact hf

end Rule

theorem RuleSet.isValid_of_mem_bound {entries : List RuleEntry} {r : Rule}
    (h : r ∈ bound entries) : Filter.isValid r.normalized := by
  obtain ⟨e, -, he⟩ := List.mem_filterMap.mp h
  cases hbind : Rule.bind e with
  | error fault =>
      rw [hbind] at he
      cases he
  | ok q =>
      rw [hbind] at he
      cases he
      exact Rule.isValid_of_bind hbind

/-! ## Warnings -/

namespace Rule

theorem lacksPath_iff (u : PayloadUse) :
    lacksPath u ↔ u.isField ∧ (∃ name, u.kind = some name ∧ Kind.ofName? name = some .json) ∧
      u.path = none := by
  simp [lacksPath, payloadKind?, Option.bind_eq_some_iff, and_assoc]

theorem mem_unknownKinds_iff (u : PayloadUse) (name : String) :
    name ∈ unknownKinds u ↔
      (u.kind = some name ∨ ∃ x ∈ u.extractions, x.kind = some name) ∧
        Kind.ofName? name = none := by
  simp [unknownKinds, or_and_right]

/-- What looks wrong about a rule that is bound. -/
inductive Suspicion (r : Rule) : Event → Prop where
  | uncaptured {token} (ht : token ∈ r.tokens.keys) (hn : token ∉ r.pattern.names) :
      Suspicion r (.tokenNotCaptured r.topic token)
  | noPath {u name} (hp : r.payload = some u) (hf : u.isField) (hn : u.kind = some name)
      (hk : Kind.ofName? name = some .json) (hpath : u.path = none) :
      Suspicion r (.jsonWithoutPath r.topic)
  | unknownKind {u name} (hp : r.payload = some u)
      (hn : u.kind = some name ∨ ∃ x ∈ u.extractions, x.kind = some name)
      (hk : Kind.ofName? name = none) : Suspicion r (.unknownKind r.topic name)

theorem suspicion_of_mem_warnings {r : Rule} {ev : Event} (h : ev ∈ r.warnings) :
    Suspicion r ev := by
  rw [warnings, List.mem_append] at h
  rcases h with h | h
  · obtain ⟨token, htoken, rfl⟩ := List.mem_map.mp h
    simp only [Rule.uncaptured, List.mem_filter, Bool.not_eq_true', List.contains_eq_mem,
      decide_eq_false_iff_not] at htoken
    exact .uncaptured htoken.1 htoken.2
  · cases hp : r.payload with
    | none => simp [hp] at h
    | some u =>
        simp only [hp, List.mem_append, List.mem_map, List.mem_ite_nil_right,
          List.mem_singleton] at h
        rcases h with ⟨hlacks, rfl⟩ | ⟨name, hname, rfl⟩
        · obtain ⟨hf, ⟨name, hn, hk⟩, hpath⟩ := (lacksPath_iff u).mp hlacks
          exact .noPath hp hf hn hk hpath
        · obtain ⟨hn, hk⟩ := (mem_unknownKinds_iff u name).mp hname
          exact .unknownKind hp hn hk

theorem Suspicion.mem_warnings {r : Rule} {ev : Event} (h : Suspicion r ev) : ev ∈ r.warnings := by
  rw [warnings, List.mem_append]
  cases h with
  | uncaptured ht hn =>
      refine .inl (List.mem_map_of_mem (List.mem_filter.mpr ⟨ht, ?_⟩))
      simpa using hn
  | @noPath u name hp hf hn hk hpath =>
      have hlacks : lacksPath u := (lacksPath_iff u).mpr ⟨hf, ⟨name, hn, hk⟩, hpath⟩
      simp [hp, hlacks]
  | @unknownKind u name hp hn hk =>
      have hmem := (mem_unknownKinds_iff u name).mpr ⟨hn, hk⟩
      simp [hp, hmem]

theorem mem_warnings_iff (r : Rule) (ev : Event) : ev ∈ r.warnings ↔ Suspicion r ev :=
  ⟨suspicion_of_mem_warnings, Suspicion.mem_warnings⟩

end Rule

end TopicBridge
