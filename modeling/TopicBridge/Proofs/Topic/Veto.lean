import TopicBridge.Proofs.Topic.Alike

/-! # Validators veto and do nothing else

Whatever validators are added to a pattern and removed from it, it matches the same topics. A topic
is rejected if one of its levels that a named single wildcard has is not accepted by the validator
in force for the name, and is read as without validators otherwise. -/

namespace TopicBridge

/-- A call that changes the validators of a pattern. -/
inductive ValidatorCall
  | add (name rule : String)
  | clear
  deriving DecidableEq, Repr

namespace ValidatorCall

/-- What a call makes of a pattern; one that fails leaves it as it is. -/
def perform (p : Pattern) : ValidatorCall → Pattern
  | add name rule =>
    match p.addValidator name rule with
    | .ok q => q
    | .error _ => p
  | clear => p.clearValidators

/-- Whether a call settles anew which validator a name has. -/
def Settles (name : String) : ValidatorCall → Prop
  | add other rule => other = name ∧ (Validator.ofRule? rule).isSome = true
  | clear => True

end ValidatorCall

namespace Pattern

/-- The pattern after calls. -/
def after (p : Pattern) (calls : List ValidatorCall) : Pattern :=
  calls.foldl ValidatorCall.perform p

/-- The validator in force for a name after calls: that of the last rule which was added for the
name, unless all were removed behind it, or one that was there before and was not touched. -/
inductive InForce (p : Pattern) (calls : List ValidatorCall) (name : String) (v : Validator) :
    Prop where
  | added {before rule later} (hcalls : calls = before ++ .add name rule :: later)
      (hv : Validator.ofRule? rule = some v) (hlater : ∀ c ∈ later, ¬ c.Settles name)
  | kept (hv : p.validator? name = some v) (hcalls : ∀ c ∈ calls, ¬ c.Settles name)

section
variable (p : Pattern)

/-! ## One call -/

theorem addValidator_of_some {name rule : String} {v : Validator}
    (h : Validator.ofRule? rule = some v) :
    p.addValidator name rule = .ok { p with validators := p.validators.insert name v } := by
  simp [addValidator, h]

theorem addValidator_of_none {name rule : String} (h : Validator.ofRule? rule = none) :
    p.addValidator name rule = .error (.invalidRule name rule) := by
  simp [addValidator, h]

theorem tokens_perform (c : ValidatorCall) : (c.perform p).tokens = p.tokens := by
  cases c with
  | clear => rfl
  | add name rule =>
      cases h : Validator.ofRule? rule with
      | none => simp only [ValidatorCall.perform, addValidator_of_none p h]
      | some v => simp only [ValidatorCall.perform, addValidator_of_some p h]

theorem validator?_clear (name : String) : p.clearValidators.validator? name = none := rfl

theorem validator?_perform (c : ValidatorCall) (name : String) (v : Validator) :
    (c.perform p).validator? name = some v ↔
      (∃ rule, c = .add name rule ∧ Validator.ofRule? rule = some v) ∨
        p.validator? name = some v ∧ ¬ c.Settles name := by
  cases c with
  | clear => simp [ValidatorCall.perform, ValidatorCall.Settles, validator?_clear]
  | add other rule =>
      cases h : Validator.ofRule? rule with
      | none =>
          simp only [ValidatorCall.perform, addValidator_of_none p h, ValidatorCall.Settles, h]
          constructor
          · intro hv
            exact .inr ⟨hv, by simp⟩
          · rintro (⟨rule', hcall, hv⟩ | ⟨hv, -⟩)
            · injection hcall with _ hrule
              rw [← hrule, h] at hv
              cases hv
            · exact hv
      | some w =>
          have hget : ({ p with validators := p.validators.insert other w } : Pattern).validator?
              name = if other = name then some w else p.validator? name :=
            p.validators.get?_insert other w name
          simp only [ValidatorCall.perform, addValidator_of_some p h, ValidatorCall.Settles, h,
            hget]
          by_cases hname : other = name
          · subst hname
            simp [h]
          · simp [hname]

/-! ## Any calls -/

theorem after_append_singleton (calls : List ValidatorCall) (c : ValidatorCall) :
    p.after (calls ++ [c]) = c.perform (p.after calls) := by
  rw [after, List.foldl_append]
  rfl

theorem tokens_after (calls : List ValidatorCall) : (p.after calls).tokens = p.tokens := by
  induction calls using List.reverseRecOn with
  | nil => rfl
  | append_singleton calls c ih => rw [after_append_singleton, tokens_perform, ih]

theorem InForce.append_singleton {p : Pattern} {calls : List ValidatorCall} {name : String}
    {v : Validator} (h : p.InForce calls name v) {c : ValidatorCall} (hc : ¬ c.Settles name) :
    p.InForce (calls ++ [c]) name v := by
  have hall : ∀ {cs : List ValidatorCall}, (∀ d ∈ cs, ¬ d.Settles name) →
      ∀ d ∈ cs ++ [c], ¬ d.Settles name := by
    intro cs hcs d hd
    rcases List.mem_append.mp hd with hd | hd
    · exact hcs d hd
    · exact List.mem_singleton.mp hd ▸ hc
  cases h with
  | added hcalls hv hlater =>
      exact .added (by rw [hcalls, List.append_assoc, List.cons_append]) hv (hall hlater)
  | kept hv hcalls => exact .kept hv (hall hcalls)

theorem InForce.of_append_singleton {p : Pattern} {calls : List ValidatorCall} {name : String}
    {v : Validator} {c : ValidatorCall} (h : p.InForce (calls ++ [c]) name v) :
    (∃ rule, c = .add name rule ∧ Validator.ofRule? rule = some v) ∨
      p.InForce calls name v ∧ ¬ c.Settles name := by
  cases h with
  | kept hv hcalls =>
      exact .inr ⟨.kept hv fun d hd => hcalls d (List.mem_append_left _ hd), hcalls c (by simp)⟩
  | @added before rule later hcalls hv hlater =>
      rcases List.eq_nil_or_concat later with rfl | ⟨later, last, rfl⟩
      · obtain ⟨-, hc⟩ := List.append_inj' hcalls rfl
        exact .inl ⟨rule, List.cons.inj hc |>.1, hv⟩
      · rw [List.concat_eq_append] at hlater
        rw [List.concat_eq_append, ← List.cons_append, ← List.append_assoc] at hcalls
        obtain ⟨hfront, hc⟩ := List.append_inj' hcalls rfl
        rw [(List.cons.inj hc).1]
        exact .inr ⟨.added hfront hv fun d hd => hlater d (List.mem_append_left _ hd),
          hlater last (by simp)⟩

theorem validator?_after (calls : List ValidatorCall) (name : String) (v : Validator) :
    (p.after calls).validator? name = some v ↔ p.InForce calls name v := by
  induction calls using List.reverseRecOn with
  | nil =>
      constructor
      · intro h
        exact .kept h (by simp)
      · rintro (⟨hcalls, -, -⟩ | ⟨hv, -⟩)
        · simp at hcalls
        · exact hv
  | append_singleton calls c ih =>
      rw [after_append_singleton, validator?_perform, ih]
      constructor
      · rintro (⟨rule, rfl, hv⟩ | ⟨h, hc⟩)
        · exact .added rfl hv (by simp)
        · exact h.append_singleton hc
      · intro h
        exact h.of_append_singleton

/-! ## Readings -/

theorem isMatch_of_tokens {p q : Pattern} (h : p.tokens = q.tokens) (topic : String) :
    p.isMatch topic = q.isMatch topic := by
  rw [isMatch, isMatch, h]

theorem parts?_of_tokens {p q : Pattern} (h : p.tokens = q.tokens) (topic : String) :
    p.parts? topic = q.parts? topic := by
  rw [parts?, parts?, h]

theorem veto?_eq_some_iff (x : Token × List Level) (r : Reading) :
    p.veto? x = some r ↔
      ∃ name l v, x = (.single name, [l]) ∧ name ≠ "" ∧ p.validator? name = some v ∧
        v.accepts (String.ofList l) = false ∧ r = .rejected name (String.ofList l) v.rule := by
  constructor
  · intro h
    unfold veto? at h
    split at h
    · next name l =>
        split at h
        · cases h
        · next hname =>
            obtain ⟨v, hv, h⟩ := Option.bind_eq_some_iff.mp h
            split at h
            · cases h
            · next haccepts =>
                injection h with h
                exact ⟨name, l, v, rfl, by simpa using hname, hv, by simpa using haccepts, h.symm⟩
    · cases h
  · rintro ⟨name, l, v, rfl, hname, hv, haccepts, rfl⟩
    simp [veto?, hname, hv, haccepts]

/-- A topic is rejected if and only if there is a veto, and otherwise read without validators. -/
theorem readingOf_rejected_iff {p : Pattern} {acc : Captures}
    {filling : List (Token × List Level)} :
    (∃ token value rule, p.readingOf acc filling = .rejected token value rule) ↔
      ∃ name l v, (.single name, [l]) ∈ filling ∧ name ≠ "" ∧ p.validator? name = some v ∧
        v.accepts (String.ofList l) = false := by
  constructor
  · rintro ⟨token, value, rule, h⟩
    rw [readingOf] at h
    cases hveto : filling.findSome? p.veto? with
    | none => rw [hveto] at h; cases h
    | some r =>
        obtain ⟨x, hx, hr⟩ := List.exists_of_findSome?_eq_some hveto
        obtain ⟨name, l, v, rfl, hname, hv, haccepts, -⟩ := (p.veto?_eq_some_iff x r).mp hr
        exact ⟨name, l, v, hx, hname, hv, haccepts⟩
  · rintro ⟨name, l, v, hmem, hname, hv, haccepts⟩
    have hveto : (filling.findSome? p.veto?).isSome = true := by
      rw [List.findSome?_isSome_iff]
      exact ⟨_, hmem, Option.isSome_iff_exists.mpr
        ⟨_, (p.veto?_eq_some_iff _ _).mpr ⟨name, l, v, rfl, hname, hv, haccepts, rfl⟩⟩⟩
    obtain ⟨r, hr⟩ := Option.isSome_iff_exists.mp hveto
    obtain ⟨x, -, hx⟩ := List.exists_of_findSome?_eq_some hr
    obtain ⟨name', l', v', -, -, -, -, rfl⟩ := (p.veto?_eq_some_iff x r).mp hx
    exact ⟨_, _, _, by rw [readingOf, hr, Option.getD_some]⟩

theorem readingOf_of_not_rejected {p : Pattern} {acc : Captures}
    {filling : List (Token × List Level)}
    (h : ¬ ∃ token value rule, p.readingOf acc filling = .rejected token value rule) :
    p.readingOf acc filling = .captured (acc.insertAll (Token.valuesOf filling)) := by
  cases hveto : filling.findSome? p.veto? with
  | none => rw [readingOf, hveto, Option.getD_none]
  | some r =>
      obtain ⟨x, -, hr⟩ := List.exists_of_findSome?_eq_some hveto
      obtain ⟨name, l, v, -, -, -, -, rfl⟩ := (p.veto?_eq_some_iff x r).mp hr
      exact absurd ⟨_, _, _, by rw [readingOf, hveto, Option.getD_some]⟩ h

/-- Only validators of names that single wildcards have are asked. -/
theorem parse_eq_of_validator? {p q : Pattern} (htokens : p.tokens = q.tokens)
    (h : ∀ name, .single name ∈ p.tokens → p.validator? name = q.validator? name)
    (topic : String) : p.parse topic = q.parse topic := by
  cases hparts : p.parts? topic with
  | none =>
      have hp : p.isMatch topic = false := by rw [← isSome_parts?, hparts, Option.isSome_none]
      have hq : q.isMatch topic = false := by rw [← isMatch_of_tokens htokens, hp]
      rw [parse_of_not_isMatch hp, parse_of_not_isMatch hq]
  | some parts =>
      have hveto : ∀ x ∈ p.tokens.zip parts, p.veto? x = q.veto? x := by
        rintro ⟨token, part⟩ hx
        unfold veto?
        split
        · next heq =>
            injection heq with htoken
            rw [h _ (htoken ▸ (List.of_mem_zip hx).1)]
        · rfl
      have hsame : (p.tokens.zip parts).findSome? p.veto? =
          (p.tokens.zip parts).findSome? q.veto? := by
        rw [← List.head?_filterMap, ← List.head?_filterMap, List.filterMap_congr hveto]
      have hq : q.parts? topic = some parts := (parts?_of_tokens htokens topic).symm.trans hparts
      rw [parse_of_parts? hparts, parse_of_parts? hq, readingOf, readingOf, ← htokens, hsame]

end

/-- What becomes of a topic under the validators that calls leave behind. -/
structure VetoSpec (p : Pattern) (calls : List ValidatorCall) (topic : String) : Prop where
  tokens : (p.after calls).tokens = p.tokens
  normalized : (p.after calls).normalized = p.normalized
  isMatch : (p.after calls).isMatch topic = p.isMatch topic
  inForce : ∀ name v, (p.after calls).validator? name = some v ↔ p.InForce calls name v
  failed : ∀ name rule fault, (p.after calls).addValidator name rule = .error fault →
    p.after (calls ++ [.add name rule]) = p.after calls
  unmatched : p.isMatch topic = false → (p.after calls).parse topic = .captured .empty
  /-- What is vetoed are the levels that the tokens have of the topic, which together spell it out,
  also those of names that come again later. -/
  rejected : p.isMatch topic = true →
    ∃ parts, p.parts? topic = some parts ∧
      List.Forall₂ Token.Fills p.tokens parts ∧ Token.Spells p.tokens parts topic.toList ∧
      ((∃ token value rule, (p.after calls).parse topic = .rejected token value rule) ↔
        ∃ name l v, (.single name, [l]) ∈ p.tokens.zip parts ∧ name ≠ "" ∧
          p.InForce calls name v ∧ v.accepts (String.ofList l) = false)
  otherwise : (¬ ∃ token value rule, (p.after calls).parse topic = .rejected token value rule) →
    (p.after calls).parse topic = p.clearValidators.parse topic
  /-- Other validators for names that no single wildcard has make no difference. -/
  unasked : ∀ others, (∀ name, .single name ∈ p.tokens →
      (p.after others).validator? name = (p.after calls).validator? name) →
    (p.after others).parse topic = (p.after calls).parse topic

theorem veto_spec (p : Pattern) (calls : List ValidatorCall) (topic : String) :
    VetoSpec p calls topic := by
  have htokens := p.tokens_after calls
  have hmatch := isMatch_of_tokens htokens topic
  refine ⟨htokens, by rw [Pattern.normalized, Pattern.normalized, htokens], hmatch,
    p.validator?_after calls, ?_, ?_, ?_, ?_, ?_⟩
  · intro name rule fault hfault
    rw [after_append_singleton, ValidatorCall.perform, hfault]
  · intro htopic
    exact parse_of_not_isMatch (hmatch.trans htopic)
  · intro htopic
    obtain ⟨parts, hparts⟩ := (exists_parts?_iff p topic).mpr htopic
    obtain ⟨hfills, hspells⟩ := spells_of_parts? hparts
    refine ⟨parts, hparts, hfills, hspells, ?_⟩
    rw [parse_of_parts? ((parts?_of_tokens htokens topic).trans hparts), htokens,
      readingOf_rejected_iff]
    simp only [validator?_after]
  · intro hnone
    cases hparts : p.parts? topic with
    | none =>
        have hp : p.isMatch topic = false := by rw [← isSome_parts?, hparts, Option.isSome_none]
        rw [parse_of_not_isMatch (hmatch.trans hp),
          parse_of_not_isMatch (p := p.clearValidators) hp]
    | some parts =>
        have hafter := (parts?_of_tokens htokens topic).trans hparts
        have hclear : p.clearValidators.parts? topic = some parts := hparts
        rw [parse_of_parts? hafter] at hnone ⊢
        rw [readingOf_of_not_rejected hnone, parse_of_no_validators rfl hclear, htokens]
        rfl
  · intro others hsame
    refine parse_eq_of_validator? (by rw [tokens_after, tokens_after]) ?_ topic
    rw [tokens_after]
    exact hsame

end Pattern

end TopicBridge
