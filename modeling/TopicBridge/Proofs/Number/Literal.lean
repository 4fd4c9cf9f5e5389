import TopicBridge.Proofs.Number.Integer

/-! # Decimal literals

The grammar of decimal literals beside their reader: an optional sign, digits with at most one point
among or beside them, and an optional exponent. -/

namespace TopicBridge

/-- Digits with at most one point: the digits in front of it and those behind it, one at least. -/
inductive Mantissa : (whole places s : List Char) → Prop where
  | whole {ds} (hds : Digits ds) : Mantissa ds [] ds
  | point {whole places} (hwhole : ∀ c ∈ whole, c.isDigit) (hplaces : ∀ c ∈ places, c.isDigit)
      (hne : whole ≠ [] ∨ places ≠ []) : Mantissa whole places (whole ++ '.' :: places)

/-- An exponent of ten, which may be left out. -/
inductive ExponentText : Int → List Char → Prop where
  | none : ExponentText 0 []
  | letter {e c s} (hc : c = 'e' ∨ c = 'E') (hs : IntegerText e s) : ExponentText e (c :: s)

/-- A text of a decimal literal. -/
inductive DecimalText : Decimal → List Char → Prop where
  | mk {negative sign whole places m e x} (hs : Sign negative sign)
      (hm : Mantissa whole places m) (he : ExponentText e x) :
      DecimalText ⟨negative, digitsValue (whole ++ places), e - (places.length : Int)⟩
        (sign ++ m ++ x)

/-! ## Exponents -/

theorem cutDigits_digits {ds : List Char} (hds : ∀ c ∈ ds, c.isDigit) :
    cutDigits ds = (ds, []) := by
  simpa using @cutDigits_append ds [] hds (by simp)

theorem isDigit_of_mem_cutDigits {s : List Char} : ∀ c ∈ (cutDigits s).1, c.isDigit :=
  fun c hc => List.all_eq_true.mp List.all_takeWhile c hc

theorem append_cutDigits (s : List Char) : (cutDigits s).1 ++ (cutDigits s).2 = s :=
  List.takeWhile_append_dropWhile

theorem readExponent_eq_some_iff {s : List Char} {e : Int} :
    Decimal.readExponent s = some e ↔ ExponentText e s := by
  constructor
  · intro h
    cases s with
    | nil =>
        cases h
        exact .none
    | cons c s =>
        simp only [Decimal.readExponent] at h
        split at h
        · next hc =>
            obtain ⟨sign, hsign, hs⟩ := exists_sign_cutSign s
            have hdigits := append_cutDigits (cutSign s).2
            split at h
            · cases h
            · next hends =>
                cases h
                simp only [List.isEmpty_iff, Bool.not_eq_true', Bool.not_eq_false, not_or] at hends
                rw [hends.2, List.append_nil] at hdigits
                have htext := IntegerText.mk hsign ⟨hends.1, isDigit_of_mem_cutDigits⟩
                have hsplit : sign ++ (cutDigits (cutSign s).2).1 = s := by rw [hdigits, ← hs]
                rw [hsplit] at htext
                exact .letter hc htext
        · cases h
  · intro h
    cases h with
    | none => rfl
    | letter hc hs =>
        cases hs with
        | mk hsign hds =>
            simp only [Decimal.readExponent, if_pos hc, hds.cutSign_append hsign,
              cutDigits_digits hds.isDigit]
            simp [hds.ne_nil, withSign]

theorem ExponentText.head_ne {e : Int} {s : List Char} (h : ExponentText e s) :
    ∀ c ∈ s.head?, ¬ c.isDigit ∧ c ≠ '.' := by
  intro c hc
  cases h with
  | none => cases hc
  | letter hletter hs =>
      cases hc
      rcases hletter with rfl | rfl
      · decide
      · decide

/-! ## Mantissas -/

theorem Mantissa.head {whole places s : List Char} (h : Mantissa whole places s) :
    ∃ c t, s = c :: t ∧ (c.isDigit ∨ c = '.' ∧ ∃ d u, t = d :: u ∧ d.isDigit) := by
  cases h with
  | whole hds =>
      obtain ⟨c, ds, rfl⟩ := List.exists_cons_of_ne_nil hds.ne_nil
      exact ⟨c, ds, rfl, .inl (hds.isDigit c List.mem_cons_self)⟩
  | point hwhole hplaces hne =>
      cases whole with
      | cons c ds => exact ⟨c, _, rfl, .inl (hwhole c List.mem_cons_self)⟩
      | nil =>
          obtain ⟨d, u, rfl⟩ := List.exists_cons_of_ne_nil (hne.resolve_left (· rfl))
          exact ⟨'.', _, rfl, .inr ⟨rfl, d, u, rfl, hplaces d List.mem_cons_self⟩⟩

/-- The digits behind a point, if there is one, and what follows them. -/
def cutPlaces : List Char → List Char × List Char
  | '.' :: rest => cutDigits rest
  | rest => ([], rest)

theorem cutPlaces_of_head_ne {s : List Char} (h : ∀ c ∈ s.head?, c ≠ '.') :
    cutPlaces s = ([], s) := by
  rw [cutPlaces.eq_def]
  split
  · exact absurd rfl (h '.' rfl)
  · rfl

theorem readUnsigned_eq (negative : Bool) (s : List Char) :
    Decimal.readUnsigned negative s =
      if (cutDigits s).1 = [] ∧ (cutPlaces (cutDigits s).2).1 = [] then none
      else (Decimal.readExponent (cutPlaces (cutDigits s).2).2).map fun e =>
        ⟨negative, digitsValue ((cutDigits s).1 ++ (cutPlaces (cutDigits s).2).1),
          e - ((cutPlaces (cutDigits s).2).1.length : Int)⟩ := by
  simp only [← List.isEmpty_iff]
  rfl

/-- What is cut from a text with a digit in it is a mantissa. -/
theorem mantissa_of_cut {s : List Char}
    (hne : ¬ ((cutDigits s).1 = [] ∧ (cutPlaces (cutDigits s).2).1 = [])) :
    ∃ m, Mantissa (cutDigits s).1 (cutPlaces (cutDigits s).2).1 m ∧
      s = m ++ (cutPlaces (cutDigits s).2).2 := by
  have hwhole := isDigit_of_mem_cutDigits (s := s)
  have hs := append_cutDigits s
  by_cases hpoint : ∃ rest, (cutDigits s).2 = '.' :: rest
  · obtain ⟨rest, hrest⟩ := hpoint
    have hplaces := isDigit_of_mem_cutDigits (s := rest)
    have hbehind := append_cutDigits rest
    rw [hrest] at hne hs ⊢
    refine ⟨_, .point hwhole hplaces (by simpa only [not_and_or] using hne), ?_⟩
    change s = (cutDigits s).1 ++ '.' :: (cutDigits rest).1 ++ (cutDigits rest).2
    rw [List.append_assoc, List.cons_append, hbehind, hs]
  · have hnone : cutPlaces (cutDigits s).2 = ([], (cutDigits s).2) := by
      refine cutPlaces_of_head_ne fun c hc => ?_
      rintro rfl
      obtain ⟨rest, hrest⟩ := List.head?_eq_some_iff.mp hc
      exact hpoint ⟨rest, hrest⟩
    rw [hnone] at hne ⊢
    exact ⟨_, .whole ⟨fun hnil => hne ⟨hnil, rfl⟩, hwhole⟩, hs.symm⟩

theorem cut_of_mantissa {whole places m x : List Char} (hm : Mantissa whole places m)
    (hx : ∀ c ∈ x.head?, ¬ c.isDigit ∧ c ≠ '.') :
    (cutDigits (m ++ x)).1 = whole ∧ cutPlaces (cutDigits (m ++ x)).2 = (places, x) := by
  have hdigit : ∀ c ∈ x.head?, ¬ c.isDigit := fun c hc => (hx c hc).1
  cases hm with
  | whole hds =>
      rw [cutDigits_append hds.isDigit hdigit]
      exact ⟨rfl, cutPlaces_of_head_ne fun c hc => (hx c hc).2⟩
  | point hwhole hplaces hne =>
      rw [List.append_assoc, List.cons_append, cutDigits_append hwhole (by simp)]
      exact ⟨rfl, cutDigits_append hplaces hdigit⟩

theorem readUnsigned_eq_some_iff {negative : Bool} {s : List Char} {d : Decimal} :
    Decimal.readUnsigned negative s = some d ↔
      ∃ whole places m e x, Mantissa whole places m ∧ ExponentText e x ∧ s = m ++ x ∧
        d = ⟨negative, digitsValue (whole ++ places), e - (places.length : Int)⟩ := by
  rw [readUnsigned_eq]
  constructor
  · intro h
    split at h
    · cases h
    · next hne =>
        obtain ⟨e, he, rfl⟩ := Option.map_eq_some_iff.mp h
        obtain ⟨m, hm, hs⟩ := mantissa_of_cut hne
        exact ⟨_, _, m, e, _, hm, readExponent_eq_some_iff.mp he, hs, rfl⟩
  · rintro ⟨whole, places, m, e, x, hm, he, rfl, rfl⟩
    obtain ⟨hwhole, hplaces⟩ := cut_of_mantissa hm he.head_ne
    have hsome : ¬ (whole = [] ∧ places = []) := by
      rintro ⟨rfl, rfl⟩
      cases hm with
      | whole hds => exact hds.ne_nil rfl
      | point _ _ hne => exact hne.elim (· rfl) (· rfl)
    rw [hwhole, hplaces, if_neg hsome, readExponent_eq_some_iff.mpr he]
    rfl

/-! ## Literals -/

/-- The reader takes exactly the decimal literals. -/
theorem read_eq_some_iff {s : List Char} {d : Decimal} :
    Decimal.read s = some d ↔ DecimalText d s := by
  constructor
  · intro h
    obtain ⟨sign, hsign, hs⟩ := exists_sign_cutSign s
    have hread : Decimal.readUnsigned (cutSign s).1 (cutSign s).2 = some d := h
    obtain ⟨whole, places, m, e, x, hm, he, hrest, rfl⟩ := readUnsigned_eq_some_iff.mp hread
    have htext := DecimalText.mk hsign hm he
    rwa [List.append_assoc, ← hrest, ← hs] at htext
  · intro h
    cases h with
    | @mk negative sign whole places m e x hs hm he =>
        have hhead : ∀ c ∈ (m ++ x).head?, c ≠ '-' ∧ c ≠ '+' := by
          obtain ⟨c, t, rfl, hc⟩ := hm.head
          intro d hd
          cases hd
          rcases hc with hc | ⟨rfl, -⟩
          · constructor
            · rintro rfl
              exact absurd hc (by decide)
            · rintro rfl
              exact absurd hc (by decide)
          · decide
        rw [Decimal.read, List.append_assoc, cutSign_append hs hhead]
        exact readUnsigned_eq_some_iff.mpr ⟨_, _, m, e, x, hm, he, rfl, rfl⟩

/-- The characters of a literal. -/
theorem DecimalText.mem {d : Decimal} {s : List Char} (h : DecimalText d s) {c : Char}
    (hc : c ∈ s) : c.isDigit ∨ c ∈ ['-', '+', '.', 'e', 'E'] := by
  have hsign : ∀ {negative sign}, Sign negative sign → c ∈ sign →
      c ∈ ['-', '+', '.', 'e', 'E'] := by
    intro negative sign hs hmem
    cases hs with
    | none => cases hmem
    | plus => simpa using .inr (.inl (List.mem_singleton.mp hmem))
    | minus => simpa using .inl (List.mem_singleton.mp hmem)
  cases h with
  | mk hs hm he =>
      rcases List.mem_append.mp hc with hc | hc
      · rcases List.mem_append.mp hc with hc | hc
        · exact .inr (hsign hs hc)
        · cases hm with
          | whole hds => exact .inl (hds.isDigit c hc)
          | point hwhole hplaces hne =>
              rcases List.mem_append.mp hc with hc | hc
              · exact .inl (hwhole c hc)
              · rcases List.mem_cons.mp hc with rfl | hc
                · exact .inr (by decide)
                · exact .inl (hplaces c hc)
      · cases he with
        | none => cases hc
        | letter hletter htext =>
            rcases List.mem_cons.mp hc with rfl | hc
            · rcases hletter with rfl | rfl
              · exact .inr (by decide)
              · exact .inr (by decide)
            · cases htext with
              | mk hs hds =>
                  rcases List.mem_append.mp hc with hc | hc
                  · exact .inr (hsign hs hc)
                  · exact .inl (hds.isDigit c hc)

end TopicBridge
