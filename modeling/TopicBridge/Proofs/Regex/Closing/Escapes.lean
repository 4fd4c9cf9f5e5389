import TopicBridge.Proofs.Regex.Closing.Texts

/-! # Escapes with a parenthesis behind

A backslash at the end of a text takes the parenthesis behind for its own: `\)` is read, where `\`
alone is not. Nothing else in an escape can end in a parenthesis. -/

namespace TopicBridge.Regex

variable {s t t' : List Char}

/-! ## Hexadecimal escapes -/

theorem readHexDigits_abreast (f : Flags) (count : Nat) (acc : List Char) (h : Beside s t t') :
    Abreast (Ahead Prod.mk s) Never (readHexDigits f count acc t)
      (readHexDigits f count acc t') := by
  induction count generalizing acc t t' with
  | zero => exact .both ⟨acc.reverse, h⟩
  | succ count ih =>
      cases h with
      | closed => exact .refused
      | swallowed => exact .refused
      | @more c t hsuffix =>
          simp only [readHexDigits]
          split_ifs
          · exact ih (c :: acc) ((Beside.tail hsuffix).skip f)
          · exact .refused

theorem readHexBraced_abreast (f : Flags) {n m : Nat} (acc : List Char) (h : Beside s t t')
    (hn : t.length < n) (hm : t'.length < m) :
    Abreast (Ahead Prod.mk s) Never (readHexBraced f n acc t) (readHexBraced f m acc t') := by
  induction n generalizing m acc t t' with
  | zero => cases hn
  | succ n ih =>
      obtain ⟨m, rfl⟩ := Nat.exists_eq_add_one_of_ne_zero (Nat.ne_zero_of_lt hm)
      cases h with
      | closed => exact .refused
      | swallowed => exact .refused
      | @more c t hsuffix =>
          have ht := length_skip_le f t
          have ht' := length_skip_le f (t ++ [')'])
          simp only [List.length_cons] at hn hm
          simp only [readHexBraced]
          split_ifs
          · exact .both ⟨acc.reverse, (Beside.tail hsuffix).skip f⟩
          · exact ih (c :: acc) ((Beside.tail hsuffix).skip f) (by omega) (by omega)
          · exact .refused

theorem readHex_abreast (f : Flags) (count : Nat) (h : Beside s t t') :
    Abreast (Ahead Prod.mk s) Never (readHex f count t) (readHex f count t') := by
  have hskip := h.skip f
  have hdigits : Abreast (Ahead Prod.mk s) Never
      ((readHexDigits f count [] (skip f t)).bind fun p =>
        (charOfCode? (Unicode.hexNumber p.1)).bind fun c =>
          some (Atom.literal c (count == 2), p.2))
      ((readHexDigits f count [] (skip f t')).bind fun p =>
        (charOfCode? (Unicode.hexNumber p.1)).bind fun c =>
          some (Atom.literal c (count == 2), p.2)) := by
    refine (readHexDigits_abreast f count [] hskip).bind ?_ nofun
    rintro _ _ ⟨ds, h⟩
    exact .same _ fun c => .both ⟨_, h⟩
  simp only [readHex]
  generalize skip f t = w, skip f t' = w' at hskip hdigits
  cases hskip with
  | closed => exact hdigits
  | swallowed => exact hdigits
  | @more c u hsuffix =>
      by_cases hc : c = '\x7b'
      · subst hc
        refine (readHexBraced_abreast f [] ((Beside.tail hsuffix).skip f)
          (Nat.lt_succ_of_le (length_skip_le f u))
          (Nat.lt_succ_of_le (length_skip_le f _))).bind ?_ nofun
        rintro _ _ ⟨ds, h⟩
        dsimp only
        split_ifs
        · exact .refused
        · exact .same _ fun c => .both ⟨_, h⟩
      · split
        · next heq => exact absurd (List.cons.inj heq).1 hc
        · split
          · next heq => exact absurd (List.cons.inj heq).1 hc
          · exact hdigits

/-! ## Property escapes and word borders -/

theorem readBraced_abreast (f : Flags) {n m : Nat} (acc : List Char) (h : Beside s t t')
    (hn : t.length < n) (hm : t'.length < m) :
    Abreast (Ahead Prod.mk s) Never (readBraced f n acc t) (readBraced f m acc t') := by
  induction n generalizing m acc t t' with
  | zero => cases hn
  | succ n ih =>
      obtain ⟨m, rfl⟩ := Nat.exists_eq_add_one_of_ne_zero (Nat.ne_zero_of_lt hm)
      cases h with
      | closed =>
          -- the parenthesis goes into the name, and no brace comes behind it
          have hnone : ∀ m acc, readBraced f m acc [] = none := by
            intro m acc
            cases m <;> rfl
          rw [readBraced, readBraced, if_neg (by decide), skip_nil, hnone]
          exact .refused
      | swallowed => exact .refused
      | @more c t hsuffix =>
          have ht := length_skip_le f t
          have ht' := length_skip_le f (t ++ [')'])
          simp only [List.length_cons] at hn hm
          simp only [readBraced]
          split_ifs
          · exact .both ⟨acc.reverse, Beside.tail hsuffix⟩
          · exact ih (c :: acc) ((Beside.tail hsuffix).skip f) (by omega) (by omega)

def UsedUp {α : Type} (p : α × List Char) : Prop := p.2 = []

theorem readProperty_abreast (f : Flags) (negated : Bool) (h : Beside s t t') :
    Abreast (Ahead Prod.mk s) UsedUp (readProperty f negated t) (readProperty f negated t') := by
  have hskip := h.skip f
  simp only [readProperty]
  generalize skip f t = w, skip f t' = w' at hskip
  split_ifs
  · exact .refused
  · cases hskip with
    | closed =>
        -- the parenthesis may be the name of a class, as far as the grammar goes
        refine .of_lone fun p hp => ?_
        obtain ⟨cls, -, hp⟩ := Option.bind_eq_some_iff.mp hp
        obtain ⟨cls, -, hp⟩ := Option.bind_eq_some_iff.mp hp
        rw [← Option.some.inj hp]
        exact skip_nil f
    | swallowed => exact .refused
    | @more c u hsuffix =>
        by_cases hbrace : c = '\x7b'
        · subst hbrace
          refine (readBraced_abreast f [] ((Beside.tail hsuffix).skip f)
            (Nat.lt_succ_of_le (length_skip_le f u))
            (Nat.lt_succ_of_le (length_skip_le f _))).bind ?_ nofun
          rintro _ _ ⟨name, h⟩
          exact .same _ fun cls => .same _ fun cls => .both ⟨_, h⟩
        · by_cases hback : c = '\\'
          · subst hback
            exact .refused
          · simp only
            exact .same _ fun cls => .same _ fun cls => .both ⟨_, (Beside.tail hsuffix).skip f⟩

/-- A brace is open at the start of a text and nothing but a parenthesis comes in it. -/
def OpenBrace (f : Flags) (s : List Char) : Prop := ∃ w, s = '\x7b' :: w ∧ skip f w = [')']

theorem readBorder_of_ne {f : Flags} {c : Char} (hc : c ≠ '\x7b') (cs : List Char) :
    readBorder f (c :: cs) = some (.wordBorder f.unicode, c :: cs) := by
  rw [readBorder]
  intro rest heq
  exact hc (List.cons.inj heq).1

/-- A brace that a text ends with is no name of a border, once a parenthesis comes behind it. -/
theorem readBorder_abreast (f : Flags) (h : Beside s t t') :
    Abreast (Ahead Prod.mk s) (fun p => OpenBrace f p.2) (readBorder f t) (readBorder f t') := by
  cases h with
  | closed => exact .both ⟨_, .closed⟩
  | swallowed hline => exact .both ⟨_, .swallowed hline⟩
  | @more c u hsuffix =>
      by_cases hbrace : c = '\x7b'
      · subst hbrace
        have hskip := (Beside.tail hsuffix).skip f
        simp only [readBorder]
        have hu := length_skip_le f u
        have hu' := length_skip_le f (u ++ [')'])
        generalize skip f u = w, hw' : skip f (u ++ [')']) = w' at hskip hu hu'
        cases hskip with
        | closed => exact .lone ⟨_, rfl, hw'⟩
        | swallowed => exact .refused
        | @more d v hd =>
            dsimp only
            split_ifs
            · exact .both ⟨_, .more hsuffix⟩
            · refine (readBraced_abreast f [] (.more hd) (Nat.lt_succ_of_le hu)
                (Nat.lt_succ_of_le hu')).bind ?_ nofun
              rintro _ _ ⟨name, h⟩
              dsimp only
              split
              · exact .both ⟨_, h⟩
              · exact .both ⟨_, h⟩
              · exact .both ⟨_, h⟩
              · exact .both ⟨_, h⟩
              · exact .refused
      · rw [readBorder_of_ne hbrace, readBorder_of_ne hbrace]
        exact .both ⟨_, .more hsuffix⟩

/-! ## Escapes -/

/-- An escape with the parenthesis read: the text is used up, or the escape is a word border with
an open brace behind it. -/
def EscapeSpent (f : Flags) (p : Atom × List Char) : Prop :=
  UsedUp p ∨ (∃ l, p.1 = .look l) ∧ OpenBrace f p.2

theorem readEscape_abreast (f : Flags) (h : Beside s t t') :
    Abreast (Ahead Prod.mk s) (EscapeSpent f) (readEscape f t) (readEscape f t') := by
  cases h with
  | closed => exact .lone (.inl rfl)
  | swallowed => exact .refused
  | @more c u hsuffix =>
      have htail := Beside.tail hsuffix
      have hhex : ∀ count, Abreast (Ahead Prod.mk s) (EscapeSpent f) (readHex f count u)
          (readHex f count (u ++ [')'])) :=
        fun count => (readHex_abreast f count htail).mono (fun _ _ h => h) nofun
      have hread : ∀ atom : Atom, Abreast (Ahead Prod.mk s) (EscapeSpent f) (some (atom, u))
          (some (atom, u ++ [')'])) :=
        fun atom => .both ⟨atom, htail⟩
      simp only [readEscape]
      refine .ite (hhex 2) (.ite (hhex 4) (.ite (hhex 8) (.ite ?_ ?_)))
      · exact (readProperty_abreast f _ htail).mono (fun _ _ h => h) fun _ h => .inl h
      · cases letterClass? f c with
        | some cls => exact .ite (hread _) .refused
        | none =>
            refine .ite (hread _) ?_
            cases controlChar? c with
            | some d => exact hread _
            | none =>
                dsimp only
                split
                · exact hread _
                · exact hread _
                · exact hread _
                · exact hread _
                · exact hread _
                · refine (readBorder_abreast f htail).map ?_ fun p h => .inr ⟨⟨p.1, rfl⟩, h⟩
                  rintro _ _ ⟨l, h⟩
                  exact ⟨_, h⟩
                · exact .refused

end TopicBridge.Regex
