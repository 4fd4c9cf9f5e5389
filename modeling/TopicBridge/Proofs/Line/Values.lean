import TopicBridge.Number.Shortest
import TopicBridge.Proofs.Line.Names

/-! # Values in lines

A value that is written is read back: a text from between its quotes, and any other value from the
characters in front of the next comma. -/

namespace TopicBridge

/-! ## Digits -/

theorem digitsValue_toDigits (n : Nat) : digitsValue (Nat.toDigits 10 n) = n := by
  have h := Nat.ofDigitChars_ten_toDigits (n := n)
  rwa [Nat.ofDigitChars_eq_foldl] at h

theorem isDigit_of_mem_toDigits {n : Nat} {c : Char} (hc : c ∈ Nat.toDigits 10 n) :
    c.isDigit :=
  Nat.isDigit_of_mem_toDigits (by decide) (by decide) hc

namespace Line

theorem readDigits_toDigits (n : Nat) : readDigits (Nat.toDigits 10 n) = some n := by
  have hall : (Nat.toDigits 10 n).all Char.isDigit :=
    List.all_eq_true.mpr fun c hc => isDigit_of_mem_toDigits hc
  rw [readDigits, if_neg (by simp [Nat.toDigits_ne_nil, hall]), digitsValue_toDigits]

theorem toList_toString_int (n : Int) :
    (toString n).toList = (if n < 0 then ['-'] else []) ++ Nat.toDigits 10 n.natAbs := by
  rw [Int.toString_eq_repr, Int.repr_eq_if]
  by_cases hn : n < 0
  · have habs : (-n).toNat = n.natAbs := by omega
    simp [hn, Int.not_le.mpr hn, habs]
  · have habs : n.toNat = n.natAbs := by omega
    simp [hn, Int.not_lt.mp hn, habs]

theorem readInt_toString (n : Int) : readInt (toString n).toList = some n := by
  rw [toList_toString_int]
  by_cases hn : n < 0
  · simp only [if_pos hn, List.singleton_append, readInt, readDigits_toDigits, Option.map_some]
    rw [Int.ofNat_natAbs_of_nonpos (Int.le_of_lt hn), Int.neg_neg]
  · rw [if_neg hn, List.nil_append]
    have hdash : ∀ s, Nat.toDigits 10 n.natAbs ≠ '-' :: s := by
      intro s hs
      have hdigit := isDigit_of_mem_toDigits (hs ▸ List.mem_cons_self)
      exact absurd hdigit (by decide)
    rw [readInt.eq_def]
    split
    · next s hs => exact absurd hs (hdash s)
    · rw [readDigits_toDigits, Option.map_some, Int.natAbs_of_nonneg (Int.not_lt.mp hn)]

end Line

/-! ## Floating-point numbers -/

/-- Digits in front of a point, if there is one, and behind it. A minus sign may come first. -/
inductive PlainDecimal : List Char → Prop where
  | whole (negative : Bool) {ds : List Char} (hne : ds ≠ []) (hds : ∀ c ∈ ds, c.isDigit) :
      PlainDecimal (Binary64.signText negative ++ ds)
  | places (negative : Bool) {ds ps : List Char} (hne : ds ≠ []) (hds : ∀ c ∈ ds, c.isDigit)
      (hps : ∀ c ∈ ps, c.isDigit) : PlainDecimal (Binary64.signText negative ++ (ds ++ '.' :: ps))

namespace Binary64

theorem plainDecimal_positional (negative : Bool) (n : Nat) (k : Int) :
    PlainDecimal (signText negative ++ positional n k) := by
  have hdigits : ∀ c ∈ Nat.toDigits 10 n, c.isDigit := fun c hc => isDigit_of_mem_toDigits hc
  have hzeros : ∀ count, ∀ c ∈ List.replicate count '0', c.isDigit := by
    intro count c hc
    rw [List.eq_of_mem_replicate hc]
    decide
  rw [positional]
  split
  · refine .whole negative (by simp [Nat.toDigits_ne_nil]) fun c hc => ?_
    exact (List.mem_append.mp hc).elim (hdigits c) (hzeros _ c)
  · next hk =>
      -- zeros in front make sure that a digit is left before the point
      have hlong : (-k).toNat <
          (List.replicate ((-k).toNat + 1 - (Nat.toDigits 10 n).length) '0' ++
            Nat.toDigits 10 n).length := by
        rw [List.length_append, List.length_replicate]
        omega
      have hpadded : ∀ c ∈ List.replicate ((-k).toNat + 1 - (Nat.toDigits 10 n).length) '0' ++
          Nat.toDigits 10 n, c.isDigit :=
        fun c hc => (List.mem_append.mp hc).elim (hzeros _ c) (hdigits c)
      refine .places negative ?_ (fun c hc => hpadded c (List.mem_of_mem_take hc))
        fun c hc => hpadded c (List.mem_of_mem_drop hc)
      rw [Ne, List.take_eq_nil_iff]
      rintro (hz | hz)
      · omega
      · simp [hz] at hlong

theorem plainDecimal_toPlain {x : Binary64} (hx : x.isFinite) : PlainDecimal x.toPlain.toList := by
  cases x with
  | nan => cases hx
  | infinite negative => cases hx
  | finite negative m e =>
      rw [toPlain, String.toList_ofList]
      split
      · refine .whole negative (by simp) fun c hc => ?_
        rw [List.mem_singleton.mp hc]
        decide
      · exact plainDecimal_positional negative _ _

end Binary64

namespace PlainDecimal

theorem mem {s : List Char} (h : PlainDecimal s) {c : Char} (hc : c ∈ s) :
    c.isDigit ∨ c = '-' ∨ c = '.' := by
  have hsign : ∀ negative, c ∈ Binary64.signText negative → c = '-' := by
    intro negative hmem
    cases negative <;> simp [Binary64.signText] at hmem
    exact hmem
  cases h with
  | whole negative hne hds =>
      rcases List.mem_append.mp hc with hc | hc
      · exact .inr (.inl (hsign negative hc))
      · exact .inl (hds c hc)
  | places negative hne hds hps =>
      rcases List.mem_append.mp hc with hc | hc
      · exact .inr (.inl (hsign negative hc))
      · rcases List.mem_append.mp hc with hc | hc
        · exact .inl (hds c hc)
        · rcases List.mem_cons.mp hc with rfl | hc
          · exact .inr (.inr rfl)
          · exact .inl (hps c hc)

end PlainDecimal

/-- Characters of a kind are cut off up to the first one of another kind. -/
theorem cut_append {p : Char → Bool} {s rest : List Char} (hs : ∀ c ∈ s, p c)
    (hrest : ∀ c ∈ rest.head?, ¬ p c) :
    (s ++ rest).takeWhile p = s ∧ (s ++ rest).dropWhile p = rest := by
  rw [List.takeWhile_append_of_pos hs, List.dropWhile_append_of_pos hs]
  cases rest with
  | nil => simp
  | cons c rest => simp [hrest c rfl]

theorem cutDigits_append {ds rest : List Char} (hds : ∀ c ∈ ds, c.isDigit)
    (hrest : ∀ c ∈ rest.head?, ¬ c.isDigit) : cutDigits (ds ++ rest) = (ds, rest) := by
  obtain ⟨htake, hdrop⟩ := cut_append hds hrest
  rw [cutDigits, htake, hdrop]

theorem cutSign_signText {negative : Bool} {s : List Char} (hs : ∀ c ∈ s.head?, c.isDigit) :
    cutSign (Binary64.signText negative ++ s) = (negative, s) := by
  cases negative with
  | true => rfl
  | false =>
      cases s with
      | nil => rfl
      | cons c s =>
          have hdigit : c.isDigit := hs c rfl
          have hminus : c ≠ '-' := fun h => absurd (h ▸ hdigit) (by decide)
          have hplus : c ≠ '+' := fun h => absurd (h ▸ hdigit) (by decide)
          simp [Binary64.signText, cutSign, hminus, hplus]

theorem PlainDecimal.isSome_read {s : List Char} (h : PlainDecimal s) :
    (Decimal.read s).isSome := by
  have hhead : ∀ {ds rest : List Char}, ds ≠ [] → (∀ c ∈ ds, c.isDigit) →
      ∀ c ∈ (ds ++ rest).head?, c.isDigit := by
    intro ds rest hne hds c hc
    obtain ⟨d, ds, rfl⟩ := List.exists_cons_of_ne_nil hne
    rw [List.cons_append, List.head?_cons, Option.mem_some_iff] at hc
    exact hds c (hc ▸ List.mem_cons_self)
  cases h with
  | @whole negative ds hne hds =>
      have hcut := @cutDigits_append ds [] hds (by simp)
      rw [List.append_nil] at hcut
      rw [Decimal.read, cutSign_signText (by simpa using @hhead ds [] hne hds)]
      simp [Decimal.readUnsigned, hcut, hne, Decimal.readExponent]
  | @places negative ds ps hne hds hps =>
      have hcut := @cutDigits_append ds ('.' :: ps) hds (by simp)
      have hrest := @cutDigits_append ps [] hps (by simp)
      rw [List.append_nil] at hrest
      rw [Decimal.read, cutSign_signText (hhead hne hds)]
      simp [Decimal.readUnsigned, hcut, hrest, hne, Decimal.readExponent]

/-! ## Values -/

namespace Line

/-- What is written without quotes is read up to the next comma. -/
theorem readValue_bare {s rest : List Char} {w : Written} (hquote : '"' ∉ s) (hcomma : ',' ∉ s)
    (hrest : ∀ c ∈ rest.head?, c = ',') (h : readBare s = some w) :
    readValue (s ++ rest) = some (w, rest) := by
  have hs : ∀ c ∈ s, decide (c ≠ ',') = true :=
    fun c hc => decide_eq_true fun heq => hcomma (heq ▸ hc)
  obtain ⟨htake, hdrop⟩ := cut_append hs (by simpa using hrest)
  rw [readValue.eq_def]
  split
  · next t ht =>
      cases s with
      | nil =>
          have hr : rest = '"' :: t := ht
          exact absurd (hrest '"' (by rw [hr]; rfl)) (by decide)
      | cons c s =>
          rw [List.cons_append, List.cons.injEq] at ht
          exact absurd (ht.1 ▸ List.mem_cons_self) hquote
  · rw [htake, hdrop, h, Option.map_some]

theorem mem_toString_int {n : Int} {c : Char} (hc : c ∈ (toString n).toList) :
    c.isDigit ∨ c = '-' := by
  rw [toList_toString_int] at hc
  rcases List.mem_append.mp hc with hc | hc
  · right
    split at hc
    · exact List.mem_singleton.mp hc
    · cases hc
  · exact .inl (isDigit_of_mem_toDigits hc)

theorem readBare_int (n : Int) : readBare ((toString n).toList ++ ['i']) = some (.int n) := by
  have hlast : ∀ s : List Char, s.getLast? ≠ some 'i' → (toString n).toList ++ ['i'] ≠ s := by
    intro s hs heq
    exact hs (heq ▸ List.getLast?_concat)
  rw [readBare, if_neg (hlast _ (by decide)), if_neg (hlast _ (by decide)),
    if_pos List.getLast?_concat, List.dropLast_concat, readInt_toString, Option.map_some]

theorem readBare_float {x : Binary64} (hx : x.isFinite) :
    readBare x.toPlain.toList = some (.float x.toPlain) := by
  have hplain := Binary64.plainDecimal_toPlain hx
  have hletter : ∀ c, ¬ (c.isDigit ∨ c = '-' ∨ c = '.') → c ∉ x.toPlain.toList :=
    fun c hc hmem => hc (hplain.mem hmem)
  have htrue : x.toPlain.toList ≠ "true".toList :=
    fun h => hletter 't' (by decide) (by rw [h]; decide)
  have hfalse : x.toPlain.toList ≠ "false".toList :=
    fun h => hletter 'f' (by decide) (by rw [h]; decide)
  have hint : x.toPlain.toList.getLast? ≠ some 'i' :=
    fun h => hletter 'i' (by decide) (List.mem_of_getLast? h)
  rw [readBare, if_neg htrue, if_neg hfalse, if_neg hint, if_pos hplain.isSome_read,
    String.ofList_toList]

/-- The value of a field is read back, whatever its text. -/
theorem readValue_value {v : Value} (hv : isWritable v) {rest : List Char}
    (hrest : ∀ c ∈ rest.head?, c = ',') :
    readValue (value v ++ rest) = some (.ofValue v, rest) := by
  cases v with
  | bool b => cases b <;> exact readValue_bare (by decide) (by decide) hrest rfl
  | int n =>
      have hout : ∀ c, ¬ (c.isDigit ∨ c = '-') → c ≠ 'i' → c ∉ (toString n).toList ++ ['i'] := by
        intro c hc hi hmem
        rcases List.mem_append.mp hmem with hmem | hmem
        · exact hc (mem_toString_int hmem)
        · exact hi (List.mem_singleton.mp hmem)
      exact readValue_bare (hout _ (by decide) (by decide)) (hout _ (by decide) (by decide)) hrest
        (readBare_int n)
  | float x =>
      have hout : ∀ c, ¬ (c.isDigit ∨ c = '-' ∨ c = '.') → c ∉ x.toPlain.toList :=
        fun c hc hmem => hc ((Binary64.plainDecimal_toPlain hv).mem hmem)
      exact readValue_bare (hout _ (by decide)) (hout _ (by decide)) hrest (readBare_float hv)
  | text s =>
      have hread := @readName_mark ['\\', '"'] ['"'] s.toList (by simp) (by decide) (by simp) '"'
        (by simp) rest
      simp only [value, List.cons_append, List.append_assoc, List.nil_append, readValue, hread,
        String.ofList_toList, Written.ofValue]

end Line

end TopicBridge
