import Mathlib.Algebra.Group.Int.Defs
import Mathlib.Algebra.Group.Nat.Defs
import TopicBridge.Proofs.Line.Values
import TopicBridge.Value

/-! # Integers and their texts

An integer is written with digits and an optional sign in front. Within its bounds a reader takes
exactly the texts of integers. -/

namespace TopicBridge

/-- An optional sign. -/
inductive Sign : (negative : Bool) → List Char → Prop where
  | none : Sign false []
  | plus : Sign false ['+']
  | minus : Sign true ['-']

/-- One digit or more, of ASCII. -/
structure Digits (s : List Char) : Prop where
  ne_nil : s ≠ []
  isDigit : ∀ c ∈ s, c.isDigit

/-- An integer with a magnitude. -/
def withSign (negative : Bool) (n : Nat) : Int := if negative then -(n : Int) else n

/-- A text of an integer: digits behind an optional sign. -/
inductive IntegerText : Int → List Char → Prop where
  | mk {negative sign ds} (hs : Sign negative sign) (hds : Digits ds) :
      IntegerText (withSign negative (digitsValue ds)) (sign ++ ds)

/-- A text of a natural number: digits, perhaps behind a plus sign. -/
inductive NaturalText : Nat → List Char → Prop where
  | mk {sign ds} (hs : Sign false sign) (hds : Digits ds) :
      NaturalText (digitsValue ds) (sign ++ ds)

/-! ## Signs -/

theorem Digits.head_ne {s : List Char} (hs : Digits s) {c : Char} (hc : ¬ c.isDigit)
    (t : List Char) : s ≠ c :: t := by
  rintro rfl
  exact hc (hs.isDigit c List.mem_cons_self)

/-- Digits behind a sign do not read as another sign. -/
theorem cutSign_append {negative : Bool} {sign s : List Char} (hs : Sign negative sign)
    (hhead : ∀ c ∈ s.head?, c ≠ '-' ∧ c ≠ '+') : cutSign (sign ++ s) = (negative, s) := by
  cases hs with
  | plus => rfl
  | minus => rfl
  | none =>
      cases s with
      | nil => rfl
      | cons c s =>
          obtain ⟨hminus, hplus⟩ := hhead c rfl
          simp [cutSign, hminus, hplus]

theorem exists_sign_cutSign (s : List Char) :
    ∃ sign, Sign (cutSign s).1 sign ∧ s = sign ++ (cutSign s).2 := by
  rw [cutSign.eq_def]
  split
  · exact ⟨_, .minus, rfl⟩
  · exact ⟨_, .plus, rfl⟩
  · exact ⟨_, .none, rfl⟩

theorem Digits.cutSign_append {negative : Bool} {sign ds : List Char} (hs : Sign negative sign)
    (hds : Digits ds) : cutSign (sign ++ ds) = (negative, ds) := by
  refine TopicBridge.cutSign_append hs fun c hc => ?_
  have hdigit := hds.isDigit c (List.mem_of_head? hc)
  constructor
  · rintro rfl
    exact absurd hdigit (by decide)
  · rintro rfl
    exact absurd hdigit (by decide)

/-! ## Magnitudes -/

/-- The number that digits write behind the digits of another one. -/
def digitsFrom (n : Nat) (ds : List Char) : Nat :=
  ds.foldl (fun n c => 10 * n + (c.toNat - '0'.toNat)) n

theorem le_digitsFrom (n : Nat) (ds : List Char) : n ≤ digitsFrom n ds := by
  induction ds generalizing n with
  | nil => exact Nat.le_refl n
  | cons c ds ih =>
      have hstep := ih (10 * n + (c.toNat - '0'.toNat))
      change n ≤ digitsFrom (10 * n + (c.toNat - '0'.toNat)) ds
      omega

section Magnitude

variable {limit : Nat} {beyond : IntFault}

theorem readMagnitude_cons_of_isDigit {c : Char} (hc : c.isDigit) (n : Nat) (ds : List Char) :
    readMagnitude limit beyond n (c :: ds) =
      if limit < 10 * n + (c.toNat - '0'.toNat) then .error beyond
      else readMagnitude limit beyond (10 * n + (c.toNat - '0'.toNat)) ds := by
  simp only [readMagnitude, digitValue?, if_pos hc]

theorem readMagnitude_of_digits {n : Nat} {ds : List Char} (hn : n ≤ limit)
    (hds : ∀ c ∈ ds, c.isDigit) :
    readMagnitude limit beyond n ds =
      if digitsFrom n ds ≤ limit then .ok (digitsFrom n ds) else .error beyond := by
  induction ds generalizing n with
  | nil => exact (if_pos hn).symm
  | cons c ds ih =>
      rw [readMagnitude_cons_of_isDigit (hds c List.mem_cons_self)]
      have hrest := le_digitsFrom (10 * n + (c.toNat - '0'.toNat)) ds
      change _ = if digitsFrom (10 * n + (c.toNat - '0'.toNat)) ds ≤ limit then _ else _
      by_cases hlimit : limit < 10 * n + (c.toNat - '0'.toNat)
      · rw [if_pos hlimit, if_neg (by omega)]
      · rw [if_neg hlimit, ih (by omega) fun d hd => hds d (List.mem_cons_of_mem _ hd)]
        rfl

theorem isDigit_of_readMagnitude {n m : Nat} {ds : List Char}
    (h : readMagnitude limit beyond n ds = .ok m) : ∀ c ∈ ds, c.isDigit := by
  induction ds generalizing n with
  | nil => simp
  | cons c ds ih =>
      by_cases hc : c.isDigit
      · rw [readMagnitude_cons_of_isDigit hc] at h
        split at h
        · cases h
        · intro d hd
          rcases List.mem_cons.mp hd with rfl | hd
          · exact hc
          · exact ih h d hd
      · simp [readMagnitude, digitValue?, hc] at h

theorem readMagnitude_eq_ok_iff {m : Nat} {ds : List Char} :
    readMagnitude limit beyond 0 ds = .ok m ↔
      (∀ c ∈ ds, c.isDigit) ∧ digitsValue ds = m ∧ m ≤ limit := by
  constructor
  · intro h
    have hds := isDigit_of_readMagnitude h
    rw [readMagnitude_of_digits (Nat.zero_le _) hds] at h
    split at h
    · next hlimit =>
        cases h
        exact ⟨hds, rfl, hlimit⟩
    · cases h
  · rintro ⟨hds, rfl, hlimit⟩
    rw [readMagnitude_of_digits (Nat.zero_le _) hds]
    exact if_pos hlimit

end Magnitude

/-! ## Integers of 64 bits -/

theorem fitsInt64_iff (n : Int) : fitsInt64 n ↔ -2 ^ 63 ≤ n ∧ n ≤ 2 ^ 63 - 1 := by
  simp only [fitsInt64, Bool.and_eq_true, decide_eq_true_eq]
  omega

/-- The greatest magnitude of an integer of 64 bits with a sign. -/
def magnitudeLimit (negative : Bool) : Nat := if negative then 2 ^ 63 else 2 ^ 63 - 1

/-- What is wrong with an integer that is too far from zero. -/
def outOfBounds (negative : Bool) : IntFault := if negative then .tooSmall else .tooLarge

theorem fitsInt64_withSign (negative : Bool) (n : Nat) :
    fitsInt64 (withSign negative n) ↔ n ≤ magnitudeLimit negative := by
  cases negative with
  | false =>
      simp only [fitsInt64_iff, withSign, magnitudeLimit, Bool.false_eq_true, if_false]
      omega
  | true =>
      simp only [fitsInt64_iff, withSign, magnitudeLimit, if_true]
      omega

theorem readInt64_sign_append {negative : Bool} {sign ds : List Char} (hs : Sign negative sign)
    (hds : Digits ds) :
    readInt64 (sign ++ ds) =
      (readMagnitude (magnitudeLimit negative) (outOfBounds negative) 0 ds).map
        (withSign negative) := by
  obtain ⟨c, ds, rfl⟩ := List.exists_cons_of_ne_nil hds.ne_nil
  cases hs with
  | plus => rfl
  | minus => rfl
  | none =>
      have hplus := fun t => hds.head_ne (c := '+') (by decide) t
      have hminus := fun t => hds.head_ne (c := '-') (by decide) t
      rw [List.nil_append, readInt64.eq_def]
      split
      · next h => cases h
      · next h => exact absurd h (hplus _)
      · next h => exact absurd h (hminus _)
      · next h => exact absurd h (hminus _)
      · next h => exact absurd h (hplus _)
      · rfl

theorem exists_of_readInt64 {s : List Char} {n : Int} (h : readInt64 s = .ok n) :
    ∃ negative sign ds, Sign negative sign ∧ Digits ds ∧ s = sign ++ ds := by
  have hdigits : ∀ {limit beyond ds} {f : Nat → Int}, ds ≠ [] →
      (readMagnitude limit beyond 0 ds).map f = .ok n → Digits ds := by
    intro limit beyond ds f hne hread
    cases hm : readMagnitude limit beyond 0 ds with
    | error cause =>
        rw [hm] at hread
        cases hread
    | ok m => exact ⟨hne, isDigit_of_readMagnitude hm⟩
  rw [readInt64.eq_def] at h
  split at h
  · cases h
  · cases h
  · cases h
  · next ds hne => exact ⟨_, _, ds, .minus, hdigits hne h, rfl⟩
  · next ds hne => exact ⟨_, _, ds, .plus, hdigits hne h, rfl⟩
  · next hne _ _ _ _ => exact ⟨_, _, s, .none, hdigits hne h, rfl⟩

/-- Exactly the texts of the integers within the bounds are read, and no other integer is given. -/
theorem readInt64_eq_ok_iff {s : List Char} {n : Int} :
    readInt64 s = .ok n ↔ IntegerText n s ∧ fitsInt64 n := by
  constructor
  · intro h
    obtain ⟨negative, sign, ds, hs, hds, rfl⟩ := exists_of_readInt64 h
    rw [readInt64_sign_append hs hds] at h
    cases hm : readMagnitude (magnitudeLimit negative) (outOfBounds negative) 0 ds with
    | error cause =>
        rw [hm] at h
        cases h
    | ok m =>
        rw [hm] at h
        cases h
        obtain ⟨-, rfl, hlimit⟩ := readMagnitude_eq_ok_iff.mp hm
        exact ⟨.mk hs hds, (fitsInt64_withSign negative _).mpr hlimit⟩
  · rintro ⟨htext, hfits⟩
    cases htext with
    | @mk negative sign ds hs hds =>
        have hlimit := (fitsInt64_withSign negative _).mp hfits
        rw [readInt64_sign_append hs hds, readMagnitude_eq_ok_iff.mpr ⟨hds.isDigit, rfl, hlimit⟩]
        rfl

theorem readInt64_of_not_fits {negative : Bool} {sign ds : List Char} (hs : Sign negative sign)
    (hds : Digits ds) (h : ¬ fitsInt64 (withSign negative (digitsValue ds))) :
    readInt64 (sign ++ ds) = .error (outOfBounds negative) := by
  rw [fitsInt64_withSign] at h
  have hread : readMagnitude (magnitudeLimit negative) (outOfBounds negative) 0 ds =
      .error (outOfBounds negative) := by
    rw [readMagnitude_of_digits (Nat.zero_le _) hds.isDigit]
    exact if_neg h
  rw [readInt64_sign_append hs hds, hread]
  rfl

/-! ## Natural numbers of 64 bits -/

theorem readNat64_sign_append {sign ds : List Char} (hs : Sign false sign) (hds : Digits ds) :
    readNat64 (sign ++ ds) = readMagnitude (2 ^ 64 - 1) .tooLarge 0 ds := by
  obtain ⟨c, ds, rfl⟩ := List.exists_cons_of_ne_nil hds.ne_nil
  cases hs with
  | plus => rfl
  | none =>
      have hplus := fun t => hds.head_ne (c := '+') (by decide) t
      have hminus := fun t => hds.head_ne (c := '-') (by decide) t
      rw [List.nil_append, readNat64.eq_def]
      split
      · next h => cases h
      · next h => exact absurd h (hplus _)
      · next h => exact absurd h (hminus _)
      · next h => exact absurd h (hplus _)
      · rfl

theorem exists_of_readNat64 {s : List Char} {n : Nat} (h : readNat64 s = .ok n) :
    ∃ sign ds, Sign false sign ∧ Digits ds ∧ s = sign ++ ds := by
  rw [readNat64.eq_def] at h
  split at h
  · cases h
  · cases h
  · cases h
  · next ds hne =>
      exact ⟨_, ds, .plus, ⟨hne, isDigit_of_readMagnitude h⟩, rfl⟩
  · next hne _ _ _ =>
      exact ⟨_, s, .none, ⟨hne, isDigit_of_readMagnitude h⟩, rfl⟩

theorem readNat64_eq_ok_iff {s : List Char} {n : Nat} :
    readNat64 s = .ok n ↔ NaturalText n s ∧ n < 2 ^ 64 := by
  constructor
  · intro h
    obtain ⟨sign, ds, hs, hds, rfl⟩ := exists_of_readNat64 h
    rw [readNat64_sign_append hs hds, readMagnitude_eq_ok_iff] at h
    obtain ⟨-, rfl, hlimit⟩ := h
    exact ⟨.mk hs hds, by omega⟩
  · rintro ⟨htext, hbound⟩
    cases htext with
    | mk hs hds =>
        rw [readNat64_sign_append hs hds, readMagnitude_eq_ok_iff]
        exact ⟨hds.isDigit, rfl, by omega⟩

/-! ## Printed numbers -/

theorem digits_toDigits (n : Nat) : Digits (Nat.toDigits 10 n) :=
  ⟨Nat.toDigits_ne_nil, fun _ hc => isDigit_of_mem_toDigits hc⟩

theorem toList_toString_nat (n : Nat) : (toString n).toList = Nat.toDigits 10 n := by
  simp

theorem naturalText_toString (n : Nat) : NaturalText n (toString n).toList := by
  have htext := NaturalText.mk .none (digits_toDigits n)
  rwa [digitsValue_toDigits, List.nil_append, ← toList_toString_nat] at htext

theorem exists_sign_toString (n : Int) :
    ∃ sign ds, Sign (decide (n < 0)) sign ∧ Digits ds ∧ (toString n).toList = sign ++ ds ∧
      withSign (decide (n < 0)) (digitsValue ds) = n := by
  refine ⟨_, _, ?_, digits_toDigits n.natAbs, Line.toList_toString_int n, ?_⟩
  · by_cases hn : n < 0
    · simpa [hn] using Sign.minus
    · simpa [hn] using Sign.none
  · by_cases hn : n < 0
    · simp only [withSign, hn, decide_true, if_true, digitsValue_toDigits]
      omega
    · simp only [withSign, hn, decide_false, Bool.false_eq_true, if_false, digitsValue_toDigits]
      omega

theorem integerText_toString (n : Int) : IntegerText n (toString n).toList := by
  obtain ⟨sign, ds, hs, hds, htext, hvalue⟩ := exists_sign_toString n
  have hmk := IntegerText.mk hs hds
  rwa [hvalue, ← htext] at hmk

/-- A printed integer is read back if it is within the bounds. -/
theorem readInt64_toString {n : Int} (h : fitsInt64 n) : readInt64 (toString n).toList = .ok n :=
  readInt64_eq_ok_iff.mpr ⟨integerText_toString n, h⟩

theorem readInt64_toString_of_not_fits {n : Int} (h : ¬ fitsInt64 n) :
    readInt64 (toString n).toList = .error (outOfBounds (decide (n < 0))) := by
  obtain ⟨sign, ds, hs, hds, htext, hvalue⟩ := exists_sign_toString n
  rw [htext]
  exact readInt64_of_not_fits hs hds (by rwa [hvalue])

end TopicBridge
