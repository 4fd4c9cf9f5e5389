import Mathlib.Tactic.IntervalCases
import TopicBridge.Json.Schema
import TopicBridge.Json.Writer
import TopicBridge.Proofs.Number.Integer
import TopicBridge.Proofs.Payload.Exactness

/-! # Leaves of documents are read back

Whatever a text holds, it is read back from between its quotes, and an integer of 64 bits from its
digits. Documents are written without blanks, and what follows a value in them is a comma or a
brace, so a reader takes no more and no less than what was written.
-/

namespace TopicBridge.Json

/-! ## Blanks -/

/-- No reader passes over a character as a blank. -/
def Solid (c : Char) : Prop := c ≠ ' ' ∧ c ≠ '\n' ∧ c ≠ '\t' ∧ c ≠ '\r'

instance (c : Char) : Decidable (Solid c) :=
  inferInstanceAs (Decidable (c ≠ ' ' ∧ c ≠ '\n' ∧ c ≠ '\t' ∧ c ≠ '\r'))

theorem skipBlanks_cons {c : Char} (h : Solid c) (cs : List Char) :
    skipBlanks (c :: cs) = c :: cs := by
  obtain ⟨hspace, hline, htab, hreturn⟩ := h
  rw [skipBlanks, if_neg (by simp [hspace, hline, htab, hreturn])]

/-! ## Texts -/

/-- A code point below the printable ones is read from its escape. -/
theorem readCodePoint_control {n : Nat} (h : n < 0x20) (rest : List Char) :
    readCodePoint ('0' :: '0' :: hexDigit (n / 16) :: hexDigit (n % 16) :: rest) =
      some (Char.ofNat n, rest) := by
  have hdigits : ∀ n < 0x20, ['0', '0', hexDigit (n / 16), hexDigit (n % 16)].all readHex4.isHex ∧
      Unicode.hexNumber ['0', '0', hexDigit (n / 16), hexDigit (n % 16)] = n := by decide
  obtain ⟨hall, hvalue⟩ := hdigits n h
  have hbelow : n < 0xD800 := by omega
  simp only [readCodePoint, readHex4, hall, hvalue, if_true, Option.bind_eq_bind, Option.bind_some,
    hbelow, true_or]
  rfl

/-- One written character is read as that character. -/
theorem readQuoted_escapeChar (c : Char) (fuel : Nat) (acc rest : List Char) :
    readQuoted (fuel + 1) acc (escapeChar c ++ rest) = readQuoted fuel (c :: acc) rest := by
  rw [escapeChar]
  split
  · next h => rw [h]; rfl
  split
  · next h => rw [h]; rfl
  split
  · next h => rw [h]; rfl
  split
  · next h => rw [h]; rfl
  split
  · next h => rw [h]; rfl
  split
  · next h => rw [h]; rfl
  split
  · next h => rw [h]; rfl
  split
  · next hcontrol =>
      simp only [List.cons_append, List.nil_append, readQuoted, readCodePoint_control hcontrol,
        Char.ofNat_toNat]
  · next _ hslash _ _ _ _ _ hcontrol =>
      simp [readQuoted, hslash, hcontrol]

theorem escapeChar_ne_nil (c : Char) : escapeChar c ≠ [] := by
  rw [escapeChar]
  repeat' split
  all_goals simp

theorem readQuoted_escaped {s : List Char} {fuel : Nat} (h : s.length < fuel)
    (acc rest : List Char) :
    readQuoted fuel acc (s.flatMap escapeChar ++ '"' :: rest) = .ok (acc.reverse ++ s, rest) := by
  induction s generalizing fuel acc with
  | nil =>
      obtain ⟨fuel, rfl⟩ := Nat.exists_eq_succ_of_ne_zero (Nat.ne_of_gt h)
      simp [readQuoted]
  | cons c s ih =>
      obtain ⟨fuel, rfl⟩ := Nat.exists_eq_succ_of_ne_zero (Nat.ne_of_gt (Nat.zero_lt_of_lt h))
      rw [List.flatMap_cons, List.append_assoc, readQuoted_escapeChar,
        ih (by simpa using h), List.reverse_cons, List.append_assoc, List.singleton_append]

theorem length_le_flatMap_escapeChar (s : List Char) :
    s.length ≤ (s.flatMap escapeChar).length := by
  induction s with
  | nil => exact Nat.le_refl 0
  | cons c s ih =>
      have hpos := List.length_pos_of_ne_nil (escapeChar_ne_nil c)
      rw [List.flatMap_cons, List.length_append, List.length_cons]
      omega

/-- A text is read back behind its opening quote. -/
theorem readText_escaped (s : String) (rest : List Char) :
    readText (s.toList.flatMap escapeChar ++ '"' :: rest) = .ok (s, rest) := by
  have hfuel : s.toList.length < (s.toList.flatMap escapeChar ++ '"' :: rest).length + 1 := by
    have := length_le_flatMap_escapeChar s.toList
    rw [List.length_append]
    omega
  rw [readText, readQuoted_escaped hfuel]
  simp [bind, Except.bind, pure, Except.pure]

/-! ## Numbers -/

/-- What follows a member of an object starts with a comma or a brace. -/
inductive Follows : List Char → Prop where
  | comma (cs) : Follows (',' :: cs)
  | brace (cs) : Follows ('\x7d' :: cs)

theorem Follows.exists_head {rest : List Char} (h : Follows rest) :
    ∃ c cs, rest = c :: cs ∧ ¬ c.isDigit ∧ c ≠ '.' ∧ c ≠ 'e' ∧ c ≠ 'E' := by
  cases h with
  | comma cs => exact ⟨',', cs, rfl, by decide⟩
  | brace cs => exact ⟨'\x7d', cs, rfl, by decide⟩

theorem head?_toDigits_ne {n : Nat} (h : 0 < n) : (Nat.toDigits 10 n).head? ≠ some '0' := by
  induction n using Nat.strongRecOn with
  | _ n ih =>
      by_cases hlow : n < 10
      · rw [Nat.toDigits_of_lt_base hlow]
        interval_cases n <;> decide
      · rw [Nat.toDigits_of_base_le (by decide) (by omega), List.head?_append_of_ne_nil]
        · exact ih (n / 10) (by omega) (by omega)
        · exact Nat.toDigits_ne_nil

/-- Digits of a number that fits are all gathered. -/
theorem gather_eq {n : Nat} {ds : List Char} (h : digitsFrom n ds ≤ gatherLimit) :
    gather n ds = (digitsFrom n ds, []) := by
  induction ds generalizing n with
  | nil => rfl
  | cons c ds ih =>
      change digitsFrom (10 * n + (c.toNat - '0'.toNat)) ds ≤ gatherLimit at h
      have hfits := Nat.le_trans (le_digitsFrom _ ds) h
      rw [gather, if_neg (Nat.not_lt.mpr hfits), ih h]
      rfl

/-- A number that fits is read from its digits. -/
theorem readUnsigned_toDigits {n : Nat} (h : n ≤ gatherLimit) (negative : Bool) {rest : List Char}
    (hrest : Follows rest) :
    readUnsigned negative (Nat.toDigits 10 n ++ rest) =
      .ok (readUnsigned.whole negative n, rest) := by
  obtain ⟨c, cs, rfl, hdigit, hpoint, hlower, hupper⟩ := hrest.exists_head
  have hstop : ∀ d ∈ (c :: cs).head?, ¬ d.isDigit := by simpa using hdigit
  obtain ⟨htake, hdrop⟩ := cut_append (digits_toDigits n).isDigit hstop
  have hleading : ¬ ((Nat.toDigits 10 n).head? = some '0' ∧ 1 < (Nat.toDigits 10 n).length) := by
    rintro ⟨hhead, hlong⟩
    cases Nat.eq_zero_or_pos n with
    | inl hzero =>
        rw [hzero, Nat.toDigits_zero] at hlong
        exact absurd hlong (by decide)
    | inr hpos => exact head?_toDigits_ne hpos hhead
  have hgather : gather 0 (Nat.toDigits 10 n) = (n, []) := by
    have hvalue : digitsFrom 0 (Nat.toDigits 10 n) = n := digitsValue_toDigits n
    rw [gather_eq (by rwa [hvalue]), hvalue]
  simp only [readUnsigned, htake, hdrop, hgather]
  rw [if_neg (by simpa [Nat.toDigits_ne_nil] using hleading)]
  split
  · next hexponent => simp [hlower, hupper] at hexponent
  · rfl

/-- An integer of 64 bits is read back. -/
theorem readNumber_toString {n : Int} (h : fitsInt64 n) {rest : List Char}
    (hrest : Follows rest) :
    readNumber ((toString n).toList ++ rest) = .ok (.int n, rest) := by
  obtain ⟨hleast, hmost⟩ := (fitsInt64_iff n).mp h
  have hfits : n.natAbs ≤ gatherLimit := by
    rw [gatherLimit]
    omega
  rw [Line.toList_toString_int]
  by_cases hn : n < 0
  · have habs : ¬ (n.natAbs = 0 ∨ 0x8000000000000000 < n.natAbs) := by omega
    rw [if_pos hn, List.append_assoc, List.singleton_append, readNumber,
      readUnsigned_toDigits hfits _ hrest, readUnsigned.whole]
    simp only [Bool.not_true, Bool.false_eq_true, if_false, habs]
    rw [Int.ofNat_natAbs_of_nonpos (Int.le_of_lt hn), Int.neg_neg]
  · have hdash : ∀ cs, Nat.toDigits 10 n.natAbs ++ rest ≠ '-' :: cs := by
      intro cs hcs
      have hhead := congrArg List.head? hcs
      rw [List.head?_append_of_ne_nil _ Nat.toDigits_ne_nil] at hhead
      exact absurd ((digits_toDigits _).isDigit '-' (List.mem_of_head? hhead)) (by decide)
    rw [if_neg hn, List.nil_append, readNumber.eq_def]
    split
    · next cs hcs => exact absurd hcs (hdash cs)
    · rw [readUnsigned_toDigits hfits _ hrest, readUnsigned.whole]
      simp [Int.natAbs_of_nonneg (Int.not_lt.mp hn)]

/-! ## Values -/

theorem solid_of_isDigit {c : Char} (h : c.isDigit) : Solid c := by
  refine ⟨?_, ?_, ?_, ?_⟩ <;> rintro rfl <;> exact absurd h (by decide)

/-- What starts like a number is read as one. -/
theorem readValue_of_number {c : Char} (h : c.isDigit ∨ c = '-') (fuel depth : Nat)
    (cs : List Char) :
    readValue (fuel + 1) depth (c :: cs) =
      (readNumber (c :: cs)).map fun (n, rest) => (number n, rest) := by
  have hsolid : Solid c := h.elim solid_of_isDigit fun hc => hc ▸ by decide
  have hmarks : ['n', 't', 'f', '"', '[', '\x7b'].all (fun d => !d.isDigit && d != '-') = true := by
    decide
  have hother : ∀ d ∈ ['n', 't', 'f', '"', '[', '\x7b'], c ≠ d := by
    rintro d hd rfl
    have hmark := List.all_eq_true.mp hmarks c hd
    rcases h with h | h <;> simp [h] at hmark
  simp only [List.forall_mem_cons] at hother
  obtain ⟨hn, ht, hf, hquote, hbracket, hbrace, -⟩ := hother
  simp [readValue, skipBlanks_cons hsolid, hn, ht, hf, hquote, hbracket, hbrace]

theorem exists_toString_cons (n : Int) :
    ∃ c cs, (toString n).toList = c :: cs ∧ (c.isDigit ∨ c = '-') := by
  obtain ⟨d, ds, hds⟩ := List.exists_cons_of_ne_nil (Nat.toDigits_ne_nil (n := n.natAbs) (b := 10))
  have hd : d.isDigit := (digits_toDigits n.natAbs).isDigit d (hds ▸ List.mem_cons_self)
  rw [Line.toList_toString_int, hds]
  by_cases hn : n < 0
  · exact ⟨'-', d :: ds, by rw [if_pos hn]; rfl, .inr rfl⟩
  · exact ⟨d, ds, by rw [if_neg hn]; rfl, .inl hd⟩

/-- A value is read back as the same kind of value. -/
theorem readValue_toJson {v : Value} (h : v.Exact) (fuel depth : Nat) {rest : List Char}
    (hrest : Follows rest) :
    readValue (fuel + 1) depth (renderChars v.toJson ++ rest) = .ok (v.toJson, rest) := by
  cases h with
  | bool b => cases b <;> rfl
  | @int n hfits =>
      have hread := readNumber_toString hfits hrest
      obtain ⟨c, cs, hcs, hc⟩ := exists_toString_cons n
      change readValue (fuel + 1) depth ((toString n).toList ++ rest) = _
      rw [hcs, List.cons_append] at hread ⊢
      rw [readValue_of_number hc, hread]
      rfl
  | text s =>
      simp only [Value.toJson, renderChars, quote, List.cons_append, List.append_assoc,
        List.nil_append, readValue, skipBlanks_cons (by decide : Solid '"'), readText_escaped]
      rfl

end TopicBridge.Json
