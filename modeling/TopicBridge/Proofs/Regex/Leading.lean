import TopicBridge.Proofs.Regex.Greedy

/-! # Whether there is a way

Where only the existence of a match counts, it is enough to know from which places an expression has
a way at all. -/

namespace TopicBridge.Regex

/-- There is a way through an expression from a place on. -/
def Leads (r : Regex) (s : Spot) : Prop := ways r s ≠ []

theorem leads_cat {a b : Regex} {s : Spot} :
    Leads (cat a b) s ↔ ∃ t ∈ ways a s, Leads b t := by
  simp only [Leads, ways_cat, ne_eq, List.flatMap_eq_nil_iff, not_forall, exists_prop]

/-- In front of what can always be matched only the front counts. -/
theorem leads_cat_of_forall {a b : Regex} {s : Spot} (hb : ∀ t, Leads b t) :
    Leads (cat a b) s ↔ Leads a s := by
  rw [leads_cat]
  constructor
  · rintro ⟨t, ht, -⟩
    exact List.ne_nil_of_mem ht
  · intro h
    obtain ⟨t, ht⟩ := List.exists_mem_of_ne_nil _ h
    exact ⟨t, ht, hb t⟩

theorem ways_alt (a b : Regex) (s : Spot) : ways (alt a b) s = ways a s ++ ways b s := by
  rw [ways_eq, heads, List.flatMap_append, ← ways_eq, ← ways_eq]

theorem leads_alt {a b : Regex} {s : Spot} : Leads (alt a b) s ↔ Leads a s ∨ Leads b s := by
  rw [Leads, ways_alt, ne_eq, List.append_eq_nil_iff, not_and_or]
  rfl

theorem leads_star {r : Regex} (hr : Consumes r) (s : Spot) : Leads (star r) s := by
  rw [Leads, ways_star hr]
  exact List.append_ne_nil_of_right_ne_nil _ (List.cons_ne_nil s [])

theorem mem_ways_chars {cls : CharClass} {s t : Spot} :
    t ∈ ways (chars cls) s ↔ ∃ c ∈ s.rest.head?, cls.holds c = true ∧ t = s.along [c] := by
  cases hr : s.rest with
  | nil => simp [ways_chars_of_nil cls hr]
  | cons c cs =>
      rw [ways_chars_of_cons cls hr]
      by_cases hc : cls.holds c = true
      · simp [hc]
      · simp [hc]

/-- A repetition of a class starts with one of its characters. -/
theorem leads_plus_chars {cls : CharClass} {s : Spot} :
    Leads (plus (chars cls)) s ↔ ∃ c ∈ s.rest.head?, cls.holds c = true := by
  have hstar : ∀ t, Leads (star (chars cls)) t := leads_star (consumes_chars cls)
  rw [Leads, ways_plus, ← ways_cat, ← Leads, leads_cat_of_forall hstar]
  constructor
  · intro h
    obtain ⟨t, ht⟩ := List.exists_mem_of_ne_nil _ h
    obtain ⟨c, hc, hholds, -⟩ := mem_ways_chars.mp ht
    exact ⟨c, hc, hholds⟩
  · rintro ⟨c, hc, hholds⟩
    exact List.ne_nil_of_mem (mem_ways_chars.mpr ⟨c, hc, hholds, rfl⟩)

/-- What is bound to the start of a text matches if it has a way from there. -/
theorem isMatch_textStart (r : Regex) (text : List Char) :
    isMatch (cat (look .textStart) r) text = true ↔ Leads r (.front text) := by
  rw [isMatch, search_textStart, Option.isSome_map, List.isSome_head?, Leads]

end TopicBridge.Regex
