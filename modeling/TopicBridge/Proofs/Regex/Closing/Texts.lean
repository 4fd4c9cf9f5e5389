import TopicBridge.Regex.Grammar
import Mathlib.Tactic.SplitIfs

/-! # A text with a parenthesis behind it

Reading a text and reading the same text with `)` behind go side by side. What is left of the two
differs by the parenthesis, unless a comment that no line end closes has swallowed it. -/

namespace TopicBridge.Regex

/-! ## Blanks and comments -/

/-- A comment sign stands in the last line of a text. -/
def LastLineSign (s : List Char) : Prop := ∃ before behind, s = before ++ '#' :: behind ∧
  '\n' ∉ behind

theorem LastLineSign.of_suffix {s t : List Char} (hst : s <:+ t) (h : LastLineSign s) :
    LastLineSign t := by
  obtain ⟨front, rfl⟩ := hst
  obtain ⟨before, behind, rfl, hline⟩ := h
  exact ⟨front ++ before, behind, by simp, hline⟩

theorem skipSpaced_suffix (inComment : Bool) (s : List Char) : skipSpaced inComment s <:+ s := by
  induction s generalizing inComment with
  | nil => exact List.suffix_rfl
  | cons c cs ih =>
      rw [skipSpaced]
      split_ifs
      · exact (ih _).trans (List.suffix_cons c cs)
      · exact (ih _).trans (List.suffix_cons c cs)
      · exact (ih _).trans (List.suffix_cons c cs)
      · exact List.suffix_rfl

theorem skip_suffix (f : Flags) (s : List Char) : skip f s <:+ s := by
  rw [skip]
  split_ifs
  · exact skipSpaced_suffix false s
  · exact List.suffix_rfl

theorem skip_nil (f : Flags) : skip f [] = [] := List.suffix_nil.mp (skip_suffix f [])

theorem length_skip_le (f : Flags) (s : List Char) : (skip f s).length ≤ s.length :=
  (skip_suffix f s).length_le

/-- A parenthesis behind a text stays behind, or the comment that the text ends in goes on. -/
theorem skipSpaced_append (inComment : Bool) (s : List Char) :
    skipSpaced inComment (s ++ [')']) = skipSpaced inComment s ++ [')'] ∨
      skipSpaced inComment (s ++ [')']) = [] ∧ skipSpaced inComment s = [] ∧
        (inComment = true ∧ '\n' ∉ s ∨ LastLineSign s) := by
  induction s generalizing inComment with
  | nil => cases inComment with
    | false => exact .inl rfl
    | true => exact .inr ⟨rfl, rfl, .inl ⟨rfl, List.not_mem_nil⟩⟩
  | cons c cs ih =>
      have hsuffix : cs <:+ c :: cs := List.suffix_cons c cs
      simp only [List.cons_append, skipSpaced]
      split_ifs with hin hblank hsign
      · rcases ih (c ≠ '\n') with hkept | ⟨hbehind, halone, ⟨hc, hline⟩ | hline⟩
        · exact .inl hkept
        · have hne : '\n' ≠ c := fun h => of_decide_eq_true hc h.symm
          exact .inr ⟨hbehind, halone, .inl ⟨hin, by simp [hne, hline]⟩⟩
        · exact .inr ⟨hbehind, halone, .inr (hline.of_suffix hsuffix)⟩
      · rcases ih false with hkept | ⟨hbehind, halone, ⟨hc, -⟩ | hline⟩
        · exact .inl hkept
        · cases hc
        · exact .inr ⟨hbehind, halone, .inr (hline.of_suffix hsuffix)⟩
      · rcases ih true with hkept | ⟨hbehind, halone, ⟨-, hline⟩ | hline⟩
        · exact .inl hkept
        · exact .inr ⟨hbehind, halone, .inr ⟨[], cs, by rw [hsign, List.nil_append], hline⟩⟩
        · exact .inr ⟨hbehind, halone, .inr (hline.of_suffix hsuffix)⟩
      · exact .inl rfl

theorem peekSpaced_append (sawSign : Bool) (s : List Char) :
    peekSpaced sawSign (s ++ [')']) = (peekSpaced sawSign s).or (some ')') := by
  induction s generalizing sawSign with
  | nil => cases sawSign <;> rfl
  | cons c cs ih =>
      simp only [List.cons_append, peekSpaced]
      split_ifs
      · exact ih sawSign
      · exact ih true
      · rfl

theorem peekAfter_append (f : Flags) (c : Char) (cs : List Char) :
    peekAfter f (c :: (cs ++ [')'])) = (peekAfter f (c :: cs)).or (some ')') := by
  simp only [peekAfter, List.drop_succ_cons, List.drop_zero]
  split_ifs
  · exact peekSpaced_append false cs
  · cases cs <;> rfl

theorem dropWhile_isBlank_append (s : List Char) :
    (s ++ [')']).dropWhile Unicode.isBlank = s.dropWhile Unicode.isBlank ++ [')'] := by
  induction s with
  | nil => rfl
  | cons c cs ih =>
      rw [List.cons_append, List.dropWhile_cons, List.dropWhile_cons]
      split_ifs
      · exact ih
      · rfl

/-- Up to a mark the two texts agree; without the mark neither goes on behind it. -/
theorem cut_append {mark : Char} (hmark : mark ≠ ')') (s : List Char) :
    ((s ++ [')']).takeWhile (· ≠ mark) = s.takeWhile (· ≠ mark) ∧
        (s ++ [')']).dropWhile (· ≠ mark) = s.dropWhile (· ≠ mark) ++ [')']) ∨
      (s ++ [')']).dropWhile (· ≠ mark) = [] ∧ s.dropWhile (· ≠ mark) = [] := by
  induction s with
  | nil => exact .inr ⟨by simp [hmark.symm], rfl⟩
  | cons c cs ih =>
      by_cases hc : c = mark
      · exact .inl ⟨by simp [hc], by simp [hc]⟩
      · simpa [hc] using ih

/-! ## What is left of the two texts -/

/-- What is left of a text `s` and of the same text with a parenthesis behind. -/
inductive Beside (s : List Char) : List Char → List Char → Prop
  | closed : Beside s [] [')']
  | swallowed (hline : LastLineSign s) : Beside s [] []
  | more {c : Char} {t : List Char} (hsuffix : c :: t <:+ s) : Beside s (c :: t) (c :: (t ++ [')']))

namespace Beside

variable {s t t' : List Char}

theorem of_suffix (hsuffix : t <:+ s) : Beside s t (t ++ [')']) := by
  cases t with
  | nil => exact .closed
  | cons c t => exact .more hsuffix

/-- What is left behind the first character of what is left. -/
theorem tail {c : Char} (hsuffix : c :: t <:+ s) : Beside s t (t ++ [')']) :=
  of_suffix ((List.suffix_cons c t).trans hsuffix)

theorem suffix (h : Beside s t t') : t <:+ s := by
  cases h with
  | closed => exact List.nil_suffix
  | swallowed => exact List.nil_suffix
  | more hsuffix => exact hsuffix

theorem length_le (h : Beside s t t') : t'.length ≤ t.length + 1 := by
  cases h with
  | closed => exact Nat.le_refl 1
  | swallowed => exact Nat.zero_le 1
  | more => simp

theorem mono {u : List Char} (hsu : s <:+ u) (h : Beside s t t') : Beside u t t' := by
  cases h with
  | closed => exact .closed
  | swallowed hline => exact .swallowed (hline.of_suffix hsu)
  | more hsuffix => exact .more (hsuffix.trans hsu)

theorem skip (f : Flags) (h : Beside s t t') : Beside s (skip f t) (skip f t') := by
  have happend : t <:+ s → Beside s (Regex.skip f t) (Regex.skip f (t ++ [')'])) := by
    intro hsuffix
    cases hspaced : f.spaced with
    | false =>
        simp only [Regex.skip, hspaced, Bool.false_eq_true, if_false]
        exact of_suffix hsuffix
    | true =>
        simp only [Regex.skip, hspaced, if_true]
        rcases skipSpaced_append false t with hkept | ⟨hbehind, halone, ⟨hc, -⟩ | hline⟩
        · rw [hkept]
          exact of_suffix ((skipSpaced_suffix false t).trans hsuffix)
        · cases hc
        · rw [hbehind, halone]
          exact .swallowed (hline.of_suffix hsuffix)
  cases h with
  | closed => exact happend List.nil_suffix
  | swallowed hline =>
      rw [skip_nil]
      exact .swallowed hline
  | more hsuffix => exact happend hsuffix

/-- Either the parenthesis is still there, or nothing is left of both texts. -/
theorem eq_append_or (h : Beside s t t') :
    t' = t ++ [')'] ∨ t = [] ∧ t' = [] ∧ LastLineSign s := by
  cases h with
  | closed => exact .inl rfl
  | swallowed hline => exact .inr ⟨rfl, rfl, hline⟩
  | more => exact .inl rfl

theorem dropBlanks (h : Beside s t t') :
    Beside s (t.dropWhile Unicode.isBlank) (t'.dropWhile Unicode.isBlank) := by
  have happend : t <:+ s →
      Beside s (t.dropWhile Unicode.isBlank) ((t ++ [')']).dropWhile Unicode.isBlank) := by
    intro hsuffix
    rw [dropWhile_isBlank_append]
    exact of_suffix ((List.dropWhile_suffix _).trans hsuffix)
  cases h with
  | closed => exact happend List.nil_suffix
  | swallowed hline => exact .swallowed hline
  | more hsuffix => exact happend hsuffix

end Beside

theorem skip_append_of_cons {f : Flags} {s t : List Char} {c : Char} (h : skip f s = c :: t) :
    skip f (s ++ [')']) = c :: (t ++ [')']) := by
  have hbeside := (Beside.of_suffix (List.suffix_refl s)).skip f
  rw [h] at hbeside
  generalize skip f (s ++ [')']) = u at hbeside
  cases hbeside with
  | more => rfl

/-! ## Reading the two texts -/

/-- The outcomes of a reader on the two texts: `Both` holds of what it reads, or it refuses both
texts, or it takes the parenthesis for its own and reads the second only, with `Lone`. -/
inductive Abreast {α β : Type} (Both : α → β → Prop) (Lone : β → Prop) :
    Option α → Option β → Prop
  | both {a : α} {b : β} (h : Both a b) : Abreast Both Lone (some a) (some b)
  | refused : Abreast Both Lone none none
  | lone {b : β} (h : Lone b) : Abreast Both Lone none (some b)

namespace Abreast

variable {α β γ δ : Type} {Both : α → β → Prop} {Lone : β → Prop} {Both' : γ → δ → Prop}
  {Lone' : δ → Prop} {x : Option α} {y : Option β}

theorem of_lone (h : ∀ b, y = some b → Lone b) : Abreast Both Lone none y := by
  cases y with
  | none => exact .refused
  | some b => exact .lone (h b rfl)

/-- The next reader goes on abreast behind what both have read, and behind what only the second
has read it fails or stays alone. -/
theorem bind {f : α → Option γ} {g : β → Option δ} (h : Abreast Both Lone x y)
    (hboth : ∀ a b, Both a b → Abreast Both' Lone' (f a) (g b))
    (hlone : ∀ b, Lone b → ∀ d, g b = some d → Lone' d) :
    Abreast Both' Lone' (x.bind f) (y.bind g) := by
  cases h with
  | both h => exact hboth _ _ h
  | refused => exact .refused
  | @lone b h =>
      rw [Option.bind_none, Option.bind_some]
      exact .of_lone (hlone b h)

theorem map {f : α → γ} {g : β → δ} (h : Abreast Both Lone x y)
    (hboth : ∀ a b, Both a b → Both' (f a) (g b)) (hlone : ∀ b, Lone b → Lone' (g b)) :
    Abreast Both' Lone' (x.map f) (y.map g) := by
  cases h with
  | both h => exact .both (hboth _ _ h)
  | refused => exact .refused
  | lone h => exact .lone (hlone _ h)

theorem mono {Both₁ : α → β → Prop} {Lone₁ : β → Prop} (h : Abreast Both Lone x y)
    (hboth : ∀ a b, Both a b → Both₁ a b) (hlone : ∀ b, Lone b → Lone₁ b) :
    Abreast Both₁ Lone₁ x y := by
  cases h with
  | both h => exact .both (hboth _ _ h)
  | refused => exact .refused
  | lone h => exact .lone (hlone _ h)

theorem ite {p : Prop} [Decidable p] {x₁ : Option α} {y₁ : Option β} (h : Abreast Both Lone x y)
    (h₁ : Abreast Both Lone x₁ y₁) :
    Abreast Both Lone (if p then x else x₁) (if p then y else y₁) := by
  split_ifs
  · exact h
  · exact h₁

/-- What does not depend on the text is the same for both readers. -/
theorem same {f : α → Option γ} {g : α → Option δ} (x : Option α)
    (h : ∀ a, Abreast Both' Lone' (f a) (g a)) : Abreast Both' Lone' (x.bind f) (x.bind g) := by
  cases x with
  | none => exact .refused
  | some a => exact h a

end Abreast

/-- The same reading of the two texts, with what is left of them. -/
inductive Ahead {α β : Type} (mk : α → List Char → β) (s : List Char) : β → β → Prop
  | intro (a : α) {t t' : List Char} (h : Beside s t t') : Ahead mk s (mk a t) (mk a t')

theorem Abreast.ahead {α β : Type} {Lone : β → Prop} (mk : α → List Char → β) (a : α)
    {s t t' : List Char} (h : Beside s t t') :
    Abreast (Ahead mk s) Lone (some (mk a t)) (some (mk a t')) :=
  .both ⟨a, h⟩

theorem Ahead.mono {α β : Type} {mk : α → List Char → β} {s u : List Char} {p q : β}
    (hsu : s <:+ u) (h : Ahead mk s p q) : Ahead mk u p q := by
  obtain ⟨a, h⟩ := h
  exact ⟨a, h.mono hsu⟩

/-- No reading of the second text alone. -/
def Never {β : Type} (_ : β) : Prop := False

end TopicBridge.Regex
