import TopicBridge.Payload.Convert
import TopicBridge.Proofs.Number.Literal
import TopicBridge.Proofs.Regex.Leading
import TopicBridge.Regex.Grammar

/-! # Fronts of numbers

The front of a text decides whether it has to be a number. It is the front that the expression
`^[+-]?(\d+\.?\d*|\.\d+)` finds, which knows the digits of all scripts. -/

namespace TopicBridge.Payload

/-! ## Characters of a number -/

/-- The upper-case letters of ASCII. -/
def capitals : Unicode.Ranges := [('A'.toNat, 'Z'.toNat)]

theorem toLower_eq_self {c : Char} (h : capitals.holds c.toNat = false) : c.toLower = c := by
  simp only [capitals, Unicode.Ranges.holds, List.any_cons, List.any_nil, Bool.or_false,
    Bool.and_eq_false_iff, decide_eq_false_iff_not] at h
  refine dif_neg ?_
  rintro ⟨hlow, hhigh⟩
  exact h.elim (· hlow) (· hhigh)

theorem toLower_of_isDecimalDigit {c : Char} (h : Unicode.isDecimalDigit c) : c.toLower = c :=
  toLower_eq_self ((by decide : Unicode.decimalDigits.Apart capitals).holds_eq_false h)

theorem toLower_of_isBlank {c : Char} (h : Unicode.isBlank c) : c.toLower = c :=
  toLower_eq_self ((by decide : Unicode.blanks.Apart capitals).holds_eq_false h)

theorem toLower_of_mem_marks {c : Char} (h : c ∈ ['-', '+', '.']) : c.toLower = c := by
  have hmarks : ['-', '+', '.'].all fun c => c.toLower == c := by decide
  simpa using List.all_eq_true.mp hmarks c h

theorem isBlank_of_isDecimalDigit {c : Char} (h : Unicode.isDecimalDigit c) :
    Unicode.isBlank c = false :=
  (by decide : Unicode.decimalDigits.Apart Unicode.blanks).holds_eq_false h

theorem isBlank_of_mem_sign {negative : Bool} {sign : List Char} (hs : Sign negative sign) :
    ∀ c ∈ sign, Unicode.isBlank c = false := by
  cases hs with
  | none => simp
  | plus => exact List.forall_mem_singleton.mpr (by decide)
  | minus => exact List.forall_mem_singleton.mpr (by decide)

theorem isBlank_of_mem_marks {c : Char} (h : c ∈ ['-', '+', '.', 'e', 'E']) :
    Unicode.isBlank c = false := by
  have hmarks : ['-', '+', '.', 'e', 'E'].all fun c => !Unicode.isBlank c := by decide
  simpa using List.all_eq_true.mp hmarks c h

theorem isBlank_of_mem_literal {d : Decimal} {s : List Char} (hd : DecimalText d s) :
    ∀ c ∈ s, Unicode.isBlank c = false := by
  intro c hc
  rcases hd.mem hc with hdigit | hmark
  · exact isBlank_of_isDecimalDigit (Unicode.isDecimalDigit_of_isDigit hdigit)
  · exact isBlank_of_mem_marks hmark

/-! ## Numeric fronts -/

/-- A text that starts like a number: with a digit of some script, or with a point and such a digit,
either behind an optional sign. -/
inductive NumericFront : List Char → Prop where
  | digit {negative sign c rest} (hs : Sign negative sign) (hc : Unicode.isDecimalDigit c) :
      NumericFront (sign ++ c :: rest)
  | point {negative sign c rest} (hs : Sign negative sign) (hc : Unicode.isDecimalDigit c) :
      NumericFront (sign ++ '.' :: c :: rest)

theorem startsWithDigit_iff (s : List Char) :
    startsWithDigit s = true ↔
      (∃ c rest, s = c :: rest ∧ Unicode.isDecimalDigit c) ∨
        ∃ c rest, s = '.' :: c :: rest ∧ Unicode.isDecimalDigit c := by
  rw [startsWithDigit.eq_def]
  split
  · next c rest =>
      constructor
      · exact fun hc => .inr ⟨c, rest, rfl, hc⟩
      · rintro (⟨d, t, h, hd⟩ | ⟨d, t, h, hd⟩)
        · cases h
          exact absurd hd (by decide)
        · cases h
          exact hd
  · next c rest hpoint =>
      constructor
      · exact fun hc => .inl ⟨c, rest, rfl, hc⟩
      · rintro (⟨d, t, h, hd⟩ | ⟨d, t, h, hd⟩)
        · cases h
          exact hd
        · cases h
          exact absurd rfl (hpoint _ _ rfl)
  · simp

theorem numericFront_iff (s : List Char) :
    NumericFront s ↔
      ∃ negative sign rest,
        Sign negative sign ∧ s = sign ++ rest ∧ startsWithDigit rest = true := by
  constructor
  · intro h
    cases h with
    | digit hs hc => exact ⟨_, _, _, hs, rfl, (startsWithDigit_iff _).mpr (.inl ⟨_, _, rfl, hc⟩)⟩
    | point hs hc => exact ⟨_, _, _, hs, rfl, (startsWithDigit_iff _).mpr (.inr ⟨_, _, rfl, hc⟩)⟩
  · rintro ⟨negative, sign, rest, hs, rfl, hrest⟩
    rcases (startsWithDigit_iff rest).mp hrest with ⟨c, t, rfl, hc⟩ | ⟨c, t, rfl, hc⟩
    · exact .digit hs hc
    · exact .point hs hc

theorem head_ne_sign_of_startsWithDigit {s : List Char} (h : startsWithDigit s = true) :
    ∀ c ∈ s.head?, c ≠ '-' ∧ c ≠ '+' := by
  intro c hc
  rcases (startsWithDigit_iff s).mp h with ⟨d, t, rfl, hd⟩ | ⟨d, t, rfl, hd⟩
  · cases hc
    constructor
    · rintro rfl
      exact absurd hd (by decide)
    · rintro rfl
      exact absurd hd (by decide)
  · cases hc
    decide

theorem looksNumeric_iff (s : List Char) : looksNumeric s = true ↔ NumericFront s := by
  rw [numericFront_iff, looksNumeric]
  constructor
  · intro h
    obtain ⟨sign, hs, hsplit⟩ := exists_sign_cutSign s
    exact ⟨_, sign, _, hs, hsplit, h⟩
  · rintro ⟨negative, sign, rest, hs, rfl, hrest⟩
    rwa [cutSign_append hs (head_ne_sign_of_startsWithDigit hrest)]

theorem NumericFront.head {s : List Char} (h : NumericFront s) :
    ∃ c rest, s = c :: rest ∧ (Unicode.isDecimalDigit c ∨ c ∈ ['-', '+', '.']) := by
  cases h with
  | digit hs hc =>
      cases hs with
      | none => exact ⟨_, _, rfl, .inl hc⟩
      | plus => exact ⟨_, _, rfl, .inr (by decide)⟩
      | minus => exact ⟨_, _, rfl, .inr (by decide)⟩
  | point hs hc =>
      cases hs with
      | none => exact ⟨_, _, rfl, .inr (by decide)⟩
      | plus => exact ⟨_, _, rfl, .inr (by decide)⟩
      | minus => exact ⟨_, _, rfl, .inr (by decide)⟩

theorem numericFront_of_literal {d : Decimal} {s : List Char} (h : DecimalText d s)
    (rest : List Char) : NumericFront (s ++ rest) := by
  cases h with
  | mk hs hm he =>
      obtain ⟨c, t, rfl, hc⟩ := hm.head
      rw [List.append_assoc, List.append_assoc]
      rcases hc with hc | ⟨rfl, d, u, rfl, hd⟩
      · exact .digit hs (Unicode.isDecimalDigit_of_isDigit hc)
      · exact .point hs (Unicode.isDecimalDigit_of_isDigit hd)

/-! ### The expression for fronts -/

/-- The notation of the expression. -/
def frontNotation : String := "^[+-]?(\\d+\\.?\\d*|\\.\\d+)"

/-- A digit of some script. -/
def digitExpr : Regex := .chars (.ranges Unicode.decimalDigits)

/-- A point. -/
def pointExpr : Regex := .chars (.single '.')

/-- The signs. -/
def signs : CharClass := .union (.union .none (.single '+')) (.single '-')

/-- Digits with a point behind or among them, or a point with digits behind it. -/
def unsignedExpr : Regex :=
  .alt (.cat (.plus digitExpr) (.cat (.opt pointExpr) (.star digitExpr)))
    (.cat pointExpr (.plus digitExpr))

/-- A numeric front. -/
def frontExpr : Regex := .cat (.look .textStart) (.cat (.opt (.chars signs)) unsignedExpr)

theorem parse?_frontNotation : Regex.parse? frontNotation.toList = some frontExpr := by
  decide +kernel

theorem holds_signs (c : Char) : signs.holds c = true ↔ c = '+' ∨ c = '-' := by
  have hunion : signs.holds c =
      (CharClass.none.holds c || (CharClass.single '+').holds c ||
        (CharClass.single '-').holds c) := rfl
  have hnone : CharClass.none.holds c = false := rfl
  rw [hunion, hnone, Bool.false_or, Bool.or_eq_true, CharClass.holds_single,
    CharClass.holds_single]

theorem leads_unsignedExpr (s : Regex.Spot) :
    Regex.Leads unsignedExpr s ↔ startsWithDigit s.rest = true := by
  have hmore : ∀ t, Regex.Leads (.cat (.opt pointExpr) (.star digitExpr)) t := fun t =>
    Regex.leads_cat.mpr ⟨t, Regex.mem_ways_opt.mpr (.inr rfl),
      Regex.leads_star (Regex.consumes_chars _) t⟩
  rw [unsignedExpr, Regex.leads_alt, Regex.leads_cat_of_forall hmore, Regex.leads_cat, digitExpr,
    Regex.leads_plus_chars, startsWithDigit_iff]
  refine or_congr ?_ ?_
  · constructor
    · rintro ⟨c, hc, hdigit⟩
      obtain ⟨rest, hrest⟩ := List.head?_eq_some_iff.mp hc
      exact ⟨c, rest, hrest, hdigit⟩
    · rintro ⟨c, rest, hrest, hdigit⟩
      exact ⟨c, by rw [hrest]; rfl, hdigit⟩
  · constructor
    · rintro ⟨t, ht, hplus⟩
      obtain ⟨p, hp, hpoint, rfl⟩ := Regex.mem_ways_chars.mp ht
      obtain ⟨c, hc, hdigit⟩ := Regex.leads_plus_chars.mp hplus
      obtain ⟨behind, hbehind⟩ := List.head?_eq_some_iff.mp hp
      rw [(CharClass.holds_single '.' p).mp hpoint] at hbehind
      simp only [Regex.Spot.along_rest, hbehind, List.length_singleton, List.drop_succ_cons,
        List.drop_zero] at hc
      obtain ⟨rest, rfl⟩ := List.head?_eq_some_iff.mp hc
      exact ⟨c, rest, hbehind, hdigit⟩
    · rintro ⟨c, rest, hrest, hdigit⟩
      refine ⟨s.along ['.'], ?_, Regex.leads_plus_chars.mpr ⟨c, ?_, hdigit⟩⟩
      · exact Regex.mem_ways_chars.mpr ⟨'.', by rw [hrest]; rfl, by decide, rfl⟩
      · simp [hrest]

/-- The expression finds exactly the numeric fronts. -/
theorem isMatch_frontExpr_iff (s : List Char) :
    frontExpr.isMatch s = true ↔ NumericFront s := by
  rw [frontExpr, Regex.isMatch_textStart, Regex.leads_cat, numericFront_iff]
  simp only [leads_unsignedExpr, Regex.mem_ways_opt]
  constructor
  · rintro ⟨t, ht | rfl, hstarts⟩
    · obtain ⟨c, hc, hsign, rfl⟩ := Regex.mem_ways_chars.mp ht
      obtain ⟨rest, hrest⟩ := List.head?_eq_some_iff.mp hc
      have hs : s = c :: rest := hrest
      simp only [Regex.Spot.along_rest, hrest, List.length_singleton, List.drop_succ_cons,
        List.drop_zero] at hstarts
      rcases (holds_signs c).mp hsign with rfl | rfl
      · exact ⟨_, _, rest, .plus, hs, hstarts⟩
      · exact ⟨_, _, rest, .minus, hs, hstarts⟩
    · exact ⟨_, _, s, .none, rfl, hstarts⟩
  · rintro ⟨negative, sign, rest, hs, rfl, hrest⟩
    cases hs with
    | none => exact ⟨_, .inr rfl, hrest⟩
    | plus =>
        exact ⟨_, .inl (Regex.mem_ways_chars.mpr ⟨'+', rfl, by decide, rfl⟩), hrest⟩
    | minus =>
        exact ⟨_, .inl (Regex.mem_ways_chars.mpr ⟨'-', rfl, by decide, rfl⟩), hrest⟩

end TopicBridge.Payload
