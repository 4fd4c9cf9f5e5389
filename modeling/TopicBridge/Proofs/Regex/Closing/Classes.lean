import TopicBridge.Proofs.Regex.Closing.Escapes

/-! # Bracketed classes with a parenthesis behind

A class that is open at the end of a text takes the parenthesis behind for a member and stays open,
so no class is read that way. -/

namespace TopicBridge.Regex

variable {s t t' : List Char}

/-! ## The front of a class -/

theorem readHyphens_ahead (f : Flags) {n m : Nat} (members : CharClass) (h : Beside s t t')
    (hn : t.length < n) (hm : t'.length < m) :
    Ahead Prod.mk s (readHyphens f n members t) (readHyphens f m members t') := by
  induction n generalizing m members t t' with
  | zero => cases hn
  | succ n ih =>
      obtain ⟨m, rfl⟩ := Nat.exists_eq_add_one_of_ne_zero (Nat.ne_zero_of_lt hm)
      cases h with
      | closed => exact ⟨members, .closed⟩
      | swallowed hline => exact ⟨members, .swallowed hline⟩
      | @more c u hsuffix =>
          have hu := length_skip_le f u
          have hu' := length_skip_le f (u ++ [')'])
          simp only [List.length_cons] at hn hm
          by_cases hc : c = '-'
          · subst hc
            exact ih _ ((Beside.tail hsuffix).skip f) (by omega) (by omega)
          · have hread : ∀ n v, readHyphens f (n + 1) members (c :: v) = (members, c :: v) := by
              intro n v
              simp [readHyphens, hc]
            rw [hread, hread]
            exact ⟨members, .more hsuffix⟩

/-- The sign for the complement that a class may start with, and what follows. -/
def readSign (f : Flags) (s : List Char) : Bool × List Char :=
  match s with
  | '^' :: cs => (true, skip f cs)
  | _ => (false, s)

theorem readSign_of_ne {f : Flags} {c : Char} (hc : c ≠ '^') (cs : List Char) :
    readSign f (c :: cs) = (false, c :: cs) := by
  simp [readSign, hc]

theorem readSign_ahead (f : Flags) (h : Beside s t t') :
    Ahead Prod.mk s (readSign f t) (readSign f t') := by
  cases h with
  | closed => exact ⟨false, .closed⟩
  | swallowed hline => exact ⟨false, .swallowed hline⟩
  | @more c u hsuffix =>
      by_cases hc : c = '^'
      · subst hc
        exact ⟨true, (Beside.tail hsuffix).skip f⟩
      · rw [readSign_of_ne hc, readSign_of_ne hc]
        exact ⟨false, .more hsuffix⟩

/-- Reads the front of a class behind its sign. -/
def openSigned (f : Flags) (outer : List ClassFrame) (negated : Bool) (s : List Char) :
    Option ClassState :=
  let (members, rest) := readHyphens f (s.length + 1) .none s
  match rest with
  | [] => none
  | ']' :: cs =>
    if rest.length = s.length then
      if (skip f cs).isEmpty then none
      else some ⟨skip f cs, .union members (.single ']'), negated, none, 1, outer⟩
    else some ⟨rest, members, negated, none, 1, outer⟩
  | _ => some ⟨rest, members, negated, none, 1, outer⟩

theorem openClass_eq (f : Flags) (outer : List ClassFrame) (s : List Char) :
    openClass f outer s =
      openSigned f outer (readSign f (skip f s)).1 (readSign f (skip f s)).2 := rfl

def ClassState.on (st : ClassState) (rest : List Char) : ClassState := { st with rest := rest }

/-- Nothing but a parenthesis is left for a class. -/
def ClassState.Spent (st : ClassState) : Prop := st.rest = [')']

theorem openSigned_abreast (f : Flags) (outer : List ClassFrame) (negated : Bool)
    (h : Beside s t t') :
    Abreast (Ahead ClassState.on s) ClassState.Spent (openSigned f outer negated t)
      (openSigned f outer negated t') := by
  cases h with
  | closed => exact .lone rfl
  | swallowed => exact .refused
  | @more c u hsuffix =>
      have hhyphens := readHyphens_ahead f .none (Beside.more (List.suffix_refl (c :: u)))
        (Nat.lt_succ_self _) (Nat.lt_succ_self _)
      simp only [openSigned]
      generalize readHyphens f ((c :: u).length + 1) .none (c :: u) = p,
        readHyphens f ((c :: (u ++ [')'])).length + 1) .none (c :: (u ++ [')'])) = p' at hhyphens
      obtain ⟨members, h⟩ := hhyphens
      have hopen : ∀ {v v' members}, Beside s v v' →
          Abreast (Ahead ClassState.on s) ClassState.Spent
            (some ⟨v, members, negated, none, 1, outer⟩)
            (some ⟨v', members, negated, none, 1, outer⟩) :=
        fun {_ _ members} h =>
          .both (.intro (⟨[], members, negated, none, 1, outer⟩ : ClassState) h)
      cases h with
      | closed => exact .lone rfl
      | swallowed => exact .refused
      | @more d v hd =>
          have hv : Beside s (d :: v) (d :: (v ++ [')'])) := .more (hd.trans hsuffix)
          -- a bracket is a member of the class only if no hyphen came before it
          by_cases hbracket : d = ']'
          · subst hbracket
            by_cases hlen : v.length = u.length
            · have hskip := (Beside.tail (hd.trans hsuffix)).skip f
              simp only [List.length_cons, List.length_append, hlen, if_true]
              generalize skip f v = w, skip f (v ++ [')']) = w' at hskip
              cases hskip with
              | closed => exact .lone rfl
              | swallowed => exact .refused
              | more hw => exact hopen (.more hw)
            · simp only [List.length_cons, List.length_append, Nat.add_right_cancel_iff, hlen,
                if_false]
              exact hopen hv
          · split
            · next heq => cases heq
            · next heq => exact absurd (List.cons.inj heq).1 hbracket
            · split
              · next heq => cases heq
              · next heq => exact absurd (List.cons.inj heq).1 hbracket
              · exact hopen hv

theorem openClass_abreast (f : Flags) (outer : List ClassFrame) (h : Beside s t t') :
    Abreast (Ahead ClassState.on s) ClassState.Spent (openClass f outer t)
      (openClass f outer t') := by
  rw [openClass_eq, openClass_eq]
  have hsign := readSign_ahead f (h.skip f)
  generalize readSign f (skip f t) = p, readSign f (skip f t') = p' at hsign
  obtain ⟨negated, h⟩ := hsign
  exact openSigned_abreast f outer negated h

/-! ## Members of a class -/

theorem heads_eq {c d c' d' : Char} {u v : List Char} (h : c :: d :: u = c' :: d' :: v) :
    c = c' ∧ d = d' :=
  ⟨(List.cons.inj h).1, (List.cons.inj (List.cons.inj h).2).1⟩

/-- The sign for the complement that the name of a class of ASCII may start with. -/
def asciiSign (s : List Char) : Bool × List Char :=
  match s with
  | '^' :: cs => (true, cs)
  | _ => (false, s)

theorem asciiSign_append (s : List Char) :
    asciiSign (s ++ [')']) = ((asciiSign s).1, (asciiSign s).2 ++ [')']) := by
  cases s with
  | nil => rfl
  | cons c cs =>
      by_cases hc : c = '^'
      · subst hc
        rfl
      · have hplain : ∀ v, asciiSign (c :: v) = (false, c :: v) := by
          intro v
          simp [asciiSign, hc]
        rw [List.cons_append, hplain, hplain, List.cons_append]

theorem asciiSign_suffix (s : List Char) : (asciiSign s).2 <:+ s := by
  unfold asciiSign
  split
  · exact List.suffix_cons _ _
  · exact List.suffix_rfl

/-- Reads the name of a class of ASCII behind its sign. -/
def readAsciiName (f : Flags) (negated : Bool) (s : List Char) :
    Option (CharClass × List Char) :=
  match s.dropWhile (· ≠ ':') with
  | ':' :: ']' :: rest => do
    let cls ← CharClass.ascii? (s.takeWhile (· ≠ ':'))
    return (← finish? f negated cls, rest)
  | _ => none

theorem readAsciiClass?_eq (f : Flags) (s : List Char) :
    readAsciiClass? f ('[' :: ':' :: s) = readAsciiName f (asciiSign s).1 (asciiSign s).2 := rfl

theorem readAsciiClass?_of_ne (f : Flags) {c d : Char} (h : ¬(c = '[' ∧ d = ':'))
    (s : List Char) : readAsciiClass? f (c :: d :: s) = none := by
  unfold readAsciiClass?
  split
  · next heq => exact absurd (heads_eq heq) h
  · rfl

theorem readAsciiName_abreast (f : Flags) (negated : Bool) (hsuffix : t <:+ s) :
    Abreast (Ahead Prod.mk s) Never (readAsciiName f negated t)
      (readAsciiName f negated (t ++ [')'])) := by
  simp only [readAsciiName]
  rcases cut_append (by decide : ':' ≠ ')') t with ⟨hname, hrest⟩ | ⟨hbehind, halone⟩
  · have hdrop : t.dropWhile (· ≠ ':') <:+ s := (List.dropWhile_suffix _).trans hsuffix
    rw [hname, hrest]
    generalize t.dropWhile (· ≠ ':') = w at hdrop
    match w with
    | [] => exact .refused
    | [c] =>
        simp only [List.cons_append, List.nil_append]
        split
        · next heq => simp at heq
        · exact .refused
    | c :: d :: rest =>
        by_cases hclose : c = ':' ∧ d = ']'
        · obtain ⟨rfl, rfl⟩ := hclose
          have hrest : rest <:+ s := (List.suffix_append [':', ']'] rest).trans hdrop
          exact .same _ fun cls => .same _ fun cls => .both ⟨cls, .of_suffix hrest⟩
        · simp only [List.cons_append]
          split
          · next heq => exact absurd (heads_eq heq) hclose
          · split
            · next heq => exact absurd (heads_eq heq) hclose
            · exact .refused
  · rw [hbehind, halone]
    exact .refused

theorem readAsciiClass?_abreast (f : Flags) (c : Char) (u : List Char) :
    Abreast (Ahead Prod.mk u) Never (readAsciiClass? f (c :: u))
      (readAsciiClass? f (c :: (u ++ [')']))) := by
  cases u with
  | nil =>
      have halone : readAsciiClass? f [c] = none := by
        unfold readAsciiClass?
        split
        · next heq => cases heq
        · rfl
      rw [halone, List.nil_append, readAsciiClass?_of_ne f fun h => absurd h.2 (by decide)]
      exact .refused
  | cons d v =>
      by_cases hopen : c = '[' ∧ d = ':'
      · obtain ⟨rfl, rfl⟩ := hopen
        have hsign : (asciiSign v).2 <:+ ':' :: v :=
          (asciiSign_suffix v).trans (List.suffix_cons _ v)
        rw [List.cons_append, readAsciiClass?_eq, readAsciiClass?_eq, asciiSign_append]
        exact readAsciiName_abreast f _ hsign
      · rw [List.cons_append, readAsciiClass?_of_ne f hopen, readAsciiClass?_of_ne f hopen]
        exact .refused

theorem readElement_cons_abreast (f : Flags) (c : Char) (u : List Char) :
    Abreast (Ahead Prod.mk u) (EscapeSpent f) (readElement f (c :: u))
      (readElement f (c :: (u ++ [')']))) := by
  have hu : Beside u u (u ++ [')']) := .of_suffix List.suffix_rfl
  by_cases hc : c = '\\'
  · subst hc
    exact readEscape_abreast f hu
  · have hread : ∀ v, readElement f (c :: v) = some (.literal c false, v) := by
      intro v
      simp [readElement]
    rw [hread, hread]
    exact .both ⟨_, hu⟩

theorem readElement_abreast (f : Flags) (h : Beside s t t') :
    Abreast (Ahead Prod.mk s) (EscapeSpent f) (readElement f t) (readElement f t') := by
  cases h with
  | closed => exact .lone (.inl rfl)
  | swallowed => exact .refused
  | @more c u hsuffix =>
      exact (readElement_cons_abreast f c u).mono
        (fun _ _ h => h.mono ((List.suffix_cons c u).trans hsuffix)) fun _ h => h

theorem skip_brace (f : Flags) (u : List Char) : skip f ('\x7b' :: u) = '\x7b' :: u := by
  rw [skip]
  split_ifs
  · rfl
  · rfl

theorem or_parenthesis_beq {d : Char} (hd : d ≠ ')') (next : Option Char) :
    (next.or (some ')') == some d) = (next == some d) := by
  cases next with
  | none => simp [hd.symm]
  | some c => rfl

/-- What a member that takes the parenthesis leaves: nothing, or the parenthesis. -/
def MemberSpent (p : CharClass × List Char) : Prop := p.2 = [] ∨ p.2 = [')']

/-- Reads the end of a range. -/
def readLast (f : Flags) (first : Atom) (s : List Char) : Option (CharClass × List Char) := do
  let (last, rest) ← readElement f s
  let low ← rangeEnd? f first
  let high ← rangeEnd? f last
  if low.toNat ≤ high.toNat then return (.ranges [(low.toNat, high.toNat)], rest) else none

theorem readLast_abreast (f : Flags) (first : Atom) (h : Beside s t t') :
    Abreast (Ahead Prod.mk s) MemberSpent (readLast f first t) (readLast f first t') := by
  refine (readElement_abreast f h).bind ?_ ?_
  · rintro _ _ ⟨last, h⟩
    exact .same _ fun low => .same _ fun high => .ite (.both ⟨_, h⟩) .refused
  · rintro ⟨last, rest⟩ hspent p hp
    obtain ⟨low, -, hp⟩ := Option.bind_eq_some_iff.mp hp
    obtain ⟨high, hhigh, hp⟩ := Option.bind_eq_some_iff.mp hp
    rcases hspent with hused | ⟨⟨l, hlook⟩, -⟩
    · split_ifs at hp
      rw [← Option.some.inj hp]
      exact .inl hused
    · rw [show last = .look l from hlook] at hhigh
      cases hhigh

/-- Reads what follows the first element of a member. -/
def readBehind (f : Flags) (first : Atom) (s : List Char) : Option (CharClass × List Char) :=
  match s with
  | [] => none
  | '-' :: cs =>
    let after := peekAfter f s
    if after == some ']' || after == some '-' then do return (← elementClass? f first, s)
    else readLast f first (skip f cs)
  | _ => do return (← elementClass? f first, s)

theorem readMember_eq (f : Flags) (s : List Char) :
    readMember f s = (readElement f s).bind fun p => readBehind f p.1 (skip f p.2) := rfl

theorem readBehind_abreast (f : Flags) (first : Atom) (h : Beside s t t') :
    Abreast (Ahead Prod.mk s) MemberSpent (readBehind f first t) (readBehind f first t') := by
  cases h with
  | closed =>
      refine .of_lone fun p hp => ?_
      obtain ⟨cls, -, hp⟩ := Option.bind_eq_some_iff.mp hp
      rw [← Option.some.inj hp]
      exact .inr rfl
  | swallowed => exact .refused
  | @more c u hsuffix =>
      have hsingle : Abreast (Ahead Prod.mk s) MemberSpent
          ((elementClass? f first).bind fun cls => some (cls, c :: u))
          ((elementClass? f first).bind fun cls => some (cls, c :: (u ++ [')']))) :=
        .same _ fun cls => .both ⟨cls, .more hsuffix⟩
      by_cases hc : c = '-'
      · subst hc
        simp only [readBehind, peekAfter_append, or_parenthesis_beq (by decide : ']' ≠ ')'),
          or_parenthesis_beq (by decide : '-' ≠ ')')]
        exact .ite hsingle (readLast_abreast f first ((Beside.tail hsuffix).skip f))
      · have hread : ∀ v, readBehind f first (c :: v) =
            (elementClass? f first).bind fun cls => some (cls, c :: v) := by
          intro v
          simp [readBehind, hc]
        rw [hread, hread]
        exact hsingle

theorem readMember_abreast (f : Flags) (c : Char) (u : List Char) :
    Abreast (Ahead Prod.mk u) MemberSpent (readMember f (c :: u))
      (readMember f (c :: (u ++ [')']))) := by
  rw [readMember_eq, readMember_eq]
  refine (readElement_cons_abreast f c u).bind ?_ ?_
  · rintro _ _ ⟨first, h⟩
    exact readBehind_abreast f first (h.skip f)
  · rintro ⟨first, rest⟩ hspent p hp
    rcases hspent with hused | ⟨⟨l, hlook⟩, w, hbrace, -⟩
    · rw [show rest = [] from hused, skip_nil] at hp
      cases hp
    · rw [show first = .look l from hlook, show rest = _ from hbrace, skip_brace] at hp
      cases hp

/-- Two characters are an operator whatever follows. -/
theorem exists_classOperator?_eq (c d : Char) :
    ∃ op : Option SetOp, ∀ s, classOperator? (c :: d :: s) = op.map (·, s) := by
  by_cases hand : c = '&' ∧ d = '&'
  · obtain ⟨rfl, rfl⟩ := hand
    exact ⟨some .inter, fun s => rfl⟩
  by_cases hminus : c = '-' ∧ d = '-'
  · obtain ⟨rfl, rfl⟩ := hminus
    exact ⟨some .diff, fun s => rfl⟩
  by_cases htilde : c = '~' ∧ d = '~'
  · obtain ⟨rfl, rfl⟩ := htilde
    exact ⟨some .symmDiff, fun s => rfl⟩
  refine ⟨none, fun s => ?_⟩
  unfold classOperator?
  split
  · next heq => exact absurd (heads_eq heq) hand
  · next heq => exact absurd (heads_eq heq) hminus
  · next heq => exact absurd (heads_eq heq) htilde
  · rfl

theorem classOperator?_abreast (c : Char) (u : List Char) :
    Abreast (Ahead Prod.mk u) Never (classOperator? (c :: u))
      (classOperator? (c :: (u ++ [')']))) := by
  cases u with
  | nil =>
      have hnone : ∀ {v : List Char}, v = [c] ∨ v = [c, ')'] → classOperator? v = none := by
        intro v hv
        unfold classOperator?
        split
        · simp at hv
        · simp at hv
        · simp at hv
        · rfl
      rw [hnone (.inl rfl), List.nil_append, hnone (.inr rfl)]
      exact .refused
  | cons d v =>
      obtain ⟨op, hop⟩ := exists_classOperator?_eq c d
      rw [List.cons_append, hop, hop]
      cases op with
      | none => exact .refused
      | some op => exact .both ⟨op, .of_suffix (List.suffix_cons d v)⟩

/-! ## Classes -/

/-- A class that is left with nothing, or with a parenthesis only, is not closed. -/
theorem readClassItems_eq_none (f : Flags) (n : Nat) {st : ClassState}
    (h : skip f st.rest = [] ∨ skip f st.rest = [')']) : readClassItems f n st = none := by
  cases n with
  | zero => rfl
  | succ n =>
      rcases h with hrest | hrest
      · rw [readClassItems, hrest]
      · have hmember : readMember f [')'] = none := by
          rw [readMember_eq, show readElement f [')'] = some (.literal ')' false, []) from rfl,
            Option.bind_some, skip_nil]
          rfl
        rw [readClassItems, hrest]
        dsimp only
        rw [hmember]
        rfl

theorem skip_parenthesis (f : Flags) : skip f [')'] = [')'] := by
  rw [skip]
  split_ifs
  · rfl
  · rfl

theorem readClassItems_of_ne (f : Flags) (n : Nat) {st : ClassState} {c : Char} {u : List Char}
    (hrest : skip f st.rest = c :: u) (hclose : c ≠ ']') (hopen : c ≠ '[') :
    readClassItems f (n + 1) st =
      match classOperator? (c :: u) with
      | some (op, rest) =>
        readClassItems f n
          { st with
            rest := rest, members := .none, pending := some (op, settle f st.pending st.members),
            depth := st.depth + 1 }
      | none => (readMember f (c :: u)).bind fun p =>
        readClassItems f n { st with rest := p.2, members := .union st.members p.1 } := by
  rw [readClassItems, hrest]
  dsimp only
  split
  · next heq => cases heq
  · next heq => exact absurd (List.cons.inj heq).1 hclose
  · next heq => exact absurd (List.cons.inj heq).1 hopen
  · rfl

def closedClass (p : CharClass × Nat) (rest : List Char) : CharClass × Nat × List Char :=
  (p.1, p.2, rest)

theorem readClassItems_abreast (f : Flags) {n m : Nat} (st : ClassState) (h : Beside s t t')
    (hn : t.length < n) (hm : t'.length < m) :
    Abreast (Ahead closedClass s) Never (readClassItems f n (st.on t))
      (readClassItems f m (st.on t')) := by
  induction n generalizing m st t t' with
  | zero => cases hn
  | succ n ih =>
      obtain ⟨m, rfl⟩ := Nat.exists_eq_add_one_of_ne_zero (Nat.ne_zero_of_lt hm)
      have hskip := h.skip f
      have ht := length_skip_le f t
      have ht' := length_skip_le f t'
      generalize hw : skip f t = w, hw' : skip f t' = w' at hskip ht ht'
      cases hskip with
      | closed =>
          rw [readClassItems_eq_none f _ (.inl hw), readClassItems_eq_none f _ (.inr hw')]
          exact .refused
      | swallowed =>
          rw [readClassItems_eq_none f _ (.inl hw), readClassItems_eq_none f _ (.inl hw')]
          exact .refused
      | @more c u hsuffix =>
          simp only [List.length_cons, List.length_append, List.length_nil] at ht ht'
          have htail : Beside u u (u ++ [')']) := .of_suffix List.suffix_rfl
          -- what follows is shorter, so the fuel left is enough for it
          have hnext : ∀ (st : ClassState) {v v' : List Char}, Beside u v v' →
              Abreast (Ahead closedClass s) Never (readClassItems f n (st.on v))
                (readClassItems f m (st.on v')) := by
            intro st v v' hv
            have hle := hv.suffix.length_le
            have hle' := hv.length_le
            exact ih st (hv.mono ((List.suffix_cons c u).trans hsuffix)) (by omega) (by omega)
          by_cases hclose : c = ']'
          · subst hclose
            rw [readClassItems, readClassItems]
            simp only [ClassState.on, hw, hw']
            refine .same _ fun cls => ?_
            cases st.outer with
            | nil => exact .ahead closedClass (cls, st.depth + 1) (.tail hsuffix)
            | cons frame outer => exact hnext ⟨[], _, _, _, _, outer⟩ htail
          by_cases hopen : c = '['
          · subst hopen
            rw [readClassItems, readClassItems]
            simp only [ClassState.on, hw, hw']
            have hascii := readAsciiClass?_abreast f '[' u
            generalize readAsciiClass? f ('[' :: u) = x,
              readAsciiClass? f ('[' :: (u ++ [')'])) = y at hascii
            cases hascii with
            | lone h => exact h.elim
            | both h =>
                obtain ⟨cls, h⟩ := h
                exact hnext ⟨[], _, _, _, _, _⟩ h
            | refused =>
                refine (openClass_abreast f _ htail).bind ?_ ?_
                · rintro _ _ ⟨inner, h⟩
                  exact hnext inner h
                · intro inner hspent d hd
                  rw [readClassItems_eq_none f m
                    (.inr (by rw [show inner.rest = _ from hspent, skip_parenthesis]))] at hd
                  cases hd
          · rw [readClassItems_of_ne f n hw hclose hopen, readClassItems_of_ne f m hw' hclose hopen]
            have hoperator := classOperator?_abreast c u
            generalize classOperator? (c :: u) = x,
              classOperator? (c :: (u ++ [')'])) = y at hoperator
            cases hoperator with
            | lone h => exact h.elim
            | both h =>
                obtain ⟨op, h⟩ := h
                exact hnext ⟨[], _, _, _, _, _⟩ h
            | refused =>
                refine (readMember_abreast f c u).bind ?_ ?_
                · rintro _ _ ⟨cls, h⟩
                  exact hnext ⟨[], _, _, _, _, _⟩ h
                · intro p hspent d hd
                  have hrest : skip f p.2 = [] ∨ skip f p.2 = [')'] := by
                    rcases hspent with hp | hp
                    · exact .inl (by rw [hp, skip_nil])
                    · exact .inr (by rw [hp, skip_parenthesis])
                  rw [readClassItems_eq_none f m hrest] at hd
                  cases hd

end TopicBridge.Regex
