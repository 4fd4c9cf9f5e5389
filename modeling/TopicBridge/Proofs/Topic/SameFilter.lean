import TopicBridge.Proofs.Topic.Alike

/-! # Patterns with the same filter

The filter of a pattern determines its tokens up to the names of the wildcards. So patterns with the
same filter match the same topics and differ in nothing but the names of their captures, and a
filter that is read as a pattern is the filter of that pattern. -/

namespace TopicBridge

namespace Token

/-! ## Tokens and the levels that stand for them -/

/-- The text of a literal is not taken for a wildcard. -/
theorem Written.normalLevel_ne {text : String} (h : (literal text).Written) {c : Char}
    (hc : c = '+' ∨ c = '#') : (literal text).normalLevel ≠ [c] := by
  rw [normalLevel_literal]
  intro htext
  rcases hc with rfl | rfl
  · exact h.2.1 (by rw [htext]; rfl)
  · exact h.2.2 (by rw [htext]; rfl)

theorem alike_of_normalLevel_eq {t u : Token} (ht : t.Written) (hu : u.Written)
    (h : t.normalLevel = u.normalLevel) : Alike t u := by
  cases t with
  | literal text =>
      cases u with
      | literal other =>
          rw [normalLevel_literal, normalLevel_literal, String.toList_inj] at h
          exact h ▸ .literal text
      | single name =>
          exact absurd (h.trans (normalLevel_single name)) (ht.normalLevel_ne (.inl rfl))
      | multi name => exact absurd (h.trans (normalLevel_multi name)) (ht.normalLevel_ne (.inr rfl))
  | single name =>
      rw [normalLevel_single] at h
      cases u with
      | literal other => exact absurd h.symm (hu.normalLevel_ne (.inl rfl))
      | single other => exact .single name other
      | multi other => simp at h
  | multi name =>
      rw [normalLevel_multi] at h
      cases u with
      | literal other => exact absurd h.symm (hu.normalLevel_ne (.inr rfl))
      | single other => simp at h
      | multi other => exact .multi name other

theorem forall₂_alike_of_map_eq {ts us : List Token} (hts : ∀ t ∈ ts, t.Written)
    (hus : ∀ u ∈ us, u.Written) (h : ts.map normalLevel = us.map normalLevel) :
    List.Forall₂ Alike ts us := by
  induction ts generalizing us with
  | nil =>
      rw [List.map_eq_nil_iff.mp h.symm]
      exact .nil
  | cons t ts ih =>
      obtain ⟨u, us, rfl, hu, hmore⟩ := List.map_eq_cons_iff.mp h.symm
      exact .cons
        (alike_of_normalLevel_eq (hts t List.mem_cons_self) (hus u List.mem_cons_self) hu.symm)
        (ih (fun v hv => hts v (List.mem_cons_of_mem t hv))
          (fun v hv => hus v (List.mem_cons_of_mem u hv)) hmore.symm)

theorem map_normalized_of_alike {ts us : List Token} (h : List.Forall₂ Alike ts us) :
    ts.map normalized = us.map normalized := by
  induction h with
  | nil => rfl
  | cons htoken _ ih => rw [List.map_cons, List.map_cons, htoken.normalized_eq, ih]

/-- The level that stands for a token is read as a token that is alike. -/
theorem alike_ofLevel_normalLevel {t : Token} (h : t.Written) :
    Alike t (ofLevel t.normalLevel) := by
  cases t with
  | single name =>
      rw [normalLevel_single]
      exact .single name _
  | multi name =>
      rw [normalLevel_multi]
      exact .multi name _
  | literal text =>
      have hsame : ofLevel text.toList = literal text := by
        unfold ofLevel
        split
        · next heq => exact absurd (by rw [heq]; rfl) h.2.1
        · next heq => exact absurd (by rw [heq]; rfl) h.2.2
        · rw [String.ofList_toList]
      rw [normalLevel_literal, hsame]
      exact .literal text

end Token

namespace Pattern

section
variable {p q : Pattern}

/-! ## Alike patterns -/

theorem isMatch_of_alike (h : List.Forall₂ Token.Alike p.tokens q.tokens) (topic : String) :
    p.isMatch topic = q.isMatch topic := by
  rw [isMatch, isMatch, Token.matcher_of_alike h]

theorem parts?_of_alike (h : List.Forall₂ Token.Alike p.tokens q.tokens) (topic : String) :
    p.parts? topic = q.parts? topic := by
  rw [parts?, parts?, Token.matcher_of_alike h]
  congr 1
  funext found
  exact Token.partsFrom_of_alike h topic.toList found 1

/-- Patterns have the same filter if and only if they are alike token by token. -/
theorem normalized_eq_iff {a b : String} (ha : compile a = .ok p) (hb : compile b = .ok q) :
    p.normalized = q.normalized ↔ List.Forall₂ Token.Alike p.tokens q.tokens := by
  constructor
  · intro h
    have hlevels := congrArg levels h
    rw [levels_normalized ha, levels_normalized hb] at hlevels
    exact Token.forall₂_alike_of_map_eq (written_of_compile ha) (written_of_compile hb) hlevels
  · intro h
    rw [normalized, normalized, Token.map_normalized_of_alike h]

/-- The filter of a pattern compiles to a pattern that is alike. -/
theorem exists_compile_normalized {a : String} (ha : compile a = .ok p) :
    ∃ r, compile p.normalized = .ok r ∧ List.Forall₂ Token.Alike p.tokens r.tokens := by
  have halike : List.Forall₂ Token.Alike p.tokens ((levels p.normalized).map Token.ofLevel) := by
    rw [levels_normalized ha, List.map_map, List.forall₂_map_right_iff, List.forall₂_same]
    intro t ht
    exact Token.alike_ofLevel_normalLevel (written_of_compile ha t ht)
  have hroom : (Token.matcher p.tokens).room ≤ Regex.roomLimit := by
    simp only [compile] at ha
    split at ha
    · next hroom =>
        cases ha
        exact hroom
    · cases ha
  rw [Token.matcher_of_alike halike] at hroom
  exact ⟨⟨p.normalized, _, .empty⟩, by rw [compile, if_pos hroom], halike⟩

end

/-- What two patterns have in common. -/
structure AlikeSpec (p q : Pattern) : Prop where
  tokens : List.Forall₂ Token.Alike p.tokens q.tokens
  isMatch : ∀ topic, p.isMatch topic = q.isMatch topic
  /-- Tokens at the same position have the same levels of a topic, which together spell it out. -/
  parts : ∀ topic, p.isMatch topic = true →
    ∃ parts, p.parts? topic = some parts ∧ q.parts? topic = some parts ∧
      List.Forall₂ Token.Fills p.tokens parts ∧ Token.Spells p.tokens parts topic.toList ∧
      List.zipWith Token.value? p.tokens parts = List.zipWith Token.value? q.tokens parts ∧
      p.parse topic = .captured (.ofList (Token.valuesOf (p.tokens.zip parts))) ∧
      q.parse topic = .captured (.ofList (Token.valuesOf (q.tokens.zip parts)))
  unmatched : ∀ topic, p.isMatch topic = false →
    p.parse topic = .captured .empty ∧ q.parse topic = .captured .empty
  /-- The filter is a pattern of the same kind. -/
  filter : ∃ r, compile p.normalized = .ok r ∧ r.normalized = p.normalized ∧
    List.Forall₂ Token.Alike p.tokens r.tokens ∧
    ∀ topic, r.isMatch topic = p.isMatch topic ∧ r.parts? topic = p.parts? topic

theorem alike_of_normalized_eq {a b : String} {p q : Pattern} (ha : compile a = .ok p)
    (hb : compile b = .ok q) (h : p.normalized = q.normalized) : AlikeSpec p q := by
  have halike := (normalized_eq_iff ha hb).mp h
  have hmatch := isMatch_of_alike halike
  have hp : p.validators = .empty := by rw [eq_of_compile ha]
  have hq : q.validators = .empty := by rw [eq_of_compile hb]
  refine ⟨halike, hmatch, ?_, ?_, ?_⟩
  · intro topic htopic
    obtain ⟨parts, hparts⟩ := (exists_parts?_iff p topic).mpr htopic
    have hothers : q.parts? topic = some parts := by rw [← parts?_of_alike halike, hparts]
    obtain ⟨hfills, hspells⟩ := spells_of_parts? hparts
    exact ⟨parts, hparts, hothers, hfills, hspells, Token.values_of_alike halike parts,
      parse_of_no_validators hp hparts, parse_of_no_validators hq hothers⟩
  · intro topic htopic
    exact ⟨parse_of_not_isMatch htopic, parse_of_not_isMatch ((hmatch topic).symm.trans htopic)⟩
  · obtain ⟨r, hr, hsame⟩ := exists_compile_normalized ha
    refine ⟨r, hr, ((normalized_eq_iff ha hr).mpr hsame).symm, hsame, fun topic => ?_⟩
    exact ⟨(isMatch_of_alike hsame topic).symm, (parts?_of_alike hsame topic).symm⟩

theorem alike_of_normalized_eq_meters :
    ∃ p q, compile "a/+x/#y" = .ok p ∧ compile "a/+z/#" = .ok q ∧
      p.normalized = q.normalized ∧ AlikeSpec p q ∧
      p.parse "a/b/c/d" = .captured ⟨[("x", .single "b"), ("y", .multi ["c", "d"])]⟩ ∧
      q.parse "a/b/c/d" = .captured ⟨[("z", .single "b")]⟩ :=
  ⟨⟨"a/+x/#y", [.literal "a", .single "x", .multi "y"], .empty⟩,
    ⟨"a/+z/#", [.literal "a", .single "z", .multi ""], .empty⟩, rfl, rfl, by decide,
    alike_of_normalized_eq (a := "a/+x/#y") (b := "a/+z/#") rfl rfl (by decide),
    by decide +kernel, by decide +kernel⟩

end Pattern

end TopicBridge
