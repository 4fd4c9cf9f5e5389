import TopicBridge.Proofs.Regex.Closing.Classes
import Mathlib.Tactic.ByContra

/-! # One construct with a parenthesis behind the text

`Regex.State.step` takes a construct from the front of the text. It takes the same one with a
parenthesis behind the text, unless the construct is cut off by the end of the text: then the
parenthesis may complete it, and nothing can follow. -/

namespace TopicBridge.Regex

variable {s t t' : List Char}

/-! ## Groups and directives -/

def settings (p : Flags × Bool × Bool) (rest : List Char) : Flags × Bool × Bool × List Char :=
  (p.1, p.2.1, p.2.2, rest)

/-- Letters that the parenthesis behind the text ends. -/
def SettingsSpent (p : Flags × Bool × Bool × List Char) : Prop := p.2.1 = false ∧ p.2.2.2 = []

theorem Flags.read_abreast (f : Flags) (seen : List Char) (negated : Bool) (hsuffix : t <:+ s) :
    Abreast (Ahead settings s) SettingsSpent (f.read seen negated t)
      (f.read seen negated (t ++ [')'])) := by
  induction t generalizing f seen negated with
  | nil =>
      -- the parenthesis ends the letters, where the text alone goes on for more of them
      refine .of_lone fun p hp => ?_
      simp only [List.nil_append, Flags.read] at hp
      split_ifs at hp
      rw [← Option.some.inj hp]
      exact ⟨rfl, rfl⟩
  | cons c u ih =>
      have htail : u <:+ s := (List.suffix_cons c u).trans hsuffix
      have hend : ∀ p : Flags × Bool × Bool, Abreast (Ahead settings s) SettingsSpent
          (if seen.head? = some '-' then none else some (settings p u))
          (if seen.head? = some '-' then none else some (settings p (u ++ [')']))) :=
        fun p => .ite .refused (.both ⟨p, .of_suffix htail⟩)
      by_cases hcolon : c = ':'
      · subst hcolon
        exact hend (f, true, !seen.isEmpty)
      by_cases hparenthesis : c = ')'
      · subst hparenthesis
        exact hend (f, false, !seen.isEmpty)
      by_cases hhyphen : c = '-'
      · subst hhyphen
        exact .ite .refused (ih f _ true htail)
      · have hread : ∀ v, f.read seen negated (c :: v) =
            if seen.contains c then none
            else (f.switch? c (!negated)).bind fun g => g.read (c :: seen) negated v := by
          intro v
          rw [Flags.read]
          · cases f.switch? c (!negated) with
            | none => rfl
            | some g => rfl
          · exact hcolon
          · exact hparenthesis
          · exact hhyphen
        rw [List.cons_append, hread, hread]
        exact .ite .refused (.same _ fun g => ih g _ negated htail)

theorem readName_abreast (hsuffix : t <:+ s) :
    Abreast (Ahead Prod.mk s) Never (readName t) (readName (t ++ [')'])) := by
  simp only [readName]
  rcases cut_append (by decide : '>' ≠ ')') t with ⟨hname, hrest⟩ | ⟨hbehind, halone⟩
  · have hdrop : t.dropWhile (· ≠ '>') <:+ s := (List.dropWhile_suffix _).trans hsuffix
    rw [hname, hrest]
    generalize t.takeWhile (· ≠ '>') = name
    generalize t.dropWhile (· ≠ '>') = w at hdrop
    match name, w with
    | [], [] => exact .refused
    | [], _ :: _ => exact .refused
    | _ :: _, [] => exact .refused
    | c :: cs, d :: rest =>
        by_cases hd : d = '>'
        · subst hd
          have hrest : rest <:+ s := (List.suffix_cons '>' rest).trans hdrop
          exact .ite (.both ⟨c :: cs, .of_suffix hrest⟩) .refused
        · split
          · next heq => exact absurd (List.cons.inj heq).1 hd
          · split
            · next heq => exact absurd (List.cons.inj heq).1 hd
            · exact .refused
  · rw [hbehind, halone]
    cases t.takeWhile (· ≠ '>') with
    | nil => cases (t ++ [')']).takeWhile (· ≠ '>') <;> exact .refused
    | cons c cs => cases (t ++ [')']).takeWhile (· ≠ '>') <;> exact .refused

/-- What a parenthesis opens, with what follows. -/
inductive OpeningAhead (s : List Char) : Opening → Opening → Prop
  | group (flags : Flags) (name : Option (List Char)) {t t' : List Char} (h : Beside s t t') :
    OpeningAhead s (.group flags name t) (.group flags name t')
  | directive (flags : Flags) {t t' : List Char} (h : Beside s t t') :
    OpeningAhead s (.directive flags t) (.directive flags t')

theorem OpeningAhead.mono {u : List Char} {o o' : Opening} (hsu : s <:+ u)
    (h : OpeningAhead s o o') : OpeningAhead u o o' := by
  cases h with
  | group flags name h => exact .group flags name (h.mono hsu)
  | directive flags h => exact .directive flags (h.mono hsu)

/-- A directive that the parenthesis behind the text ends. -/
def OpeningSpent (o : Opening) : Prop := ∃ flags, o = .directive flags []

/-- What the letters behind a question mark open. -/
def openingOf? : Flags × Bool × Bool × List Char → Option Opening
  | (g, true, _, rest) => some (.group g none rest)
  | (g, false, true, rest) => some (.directive g rest)
  | _ => none

/-- Reads what follows a parenthesis and a question mark. -/
def readQuestion (f : Flags) (s : List Char) : Option Opening :=
  match s with
  | 'P' :: '<' :: rest => (readName rest).map fun (n, rest) => .group f (some n) rest
  | '=' :: _ => none
  | '!' :: _ => none
  | '<' :: rest => (readName rest).map fun (n, rest) => .group f (some n) rest
  | rest => (f.read [] false rest).bind openingOf?

/-- Neither a name nor a condition on what is ahead follows a question mark. -/
structure Letters (s : List Char) : Prop where
  unnamed : ∀ rest, s ≠ 'P' :: '<' :: rest
  notAhead : ∀ rest, s ≠ '=' :: rest
  notNot : ∀ rest, s ≠ '!' :: rest
  notAngle : ∀ rest, s ≠ '<' :: rest

theorem Letters.append (h : Letters s) : Letters (s ++ [')']) := by
  match s, h with
  | [], _ => exact ⟨by simp, by simp, by simp, by simp⟩
  | [c], h =>
      have := h.notAhead
      have := h.notNot
      have := h.notAngle
      constructor <;> simp_all
  | c :: d :: u, h =>
      have := h.unnamed
      have := h.notAhead
      have := h.notNot
      have := h.notAngle
      constructor <;> simp_all

theorem exists_of_not_letters (h : ¬Letters s) :
    (∃ u, s = 'P' :: '<' :: u) ∨ (∃ u, s = '=' :: u) ∨ (∃ u, s = '!' :: u) ∨ ∃ u, s = '<' :: u := by
  by_contra hno
  simp only [not_or, not_exists] at hno
  exact h ⟨hno.1, hno.2.1, hno.2.2.1, hno.2.2.2⟩

theorem Letters.readQuestion_eq (f : Flags) (h : Letters s) :
    readQuestion f s = (f.read [] false s).bind openingOf? := by
  unfold readQuestion
  split
  · exact absurd rfl (h.unnamed _)
  · exact absurd rfl (h.notAhead _)
  · exact absurd rfl (h.notNot _)
  · exact absurd rfl (h.notAngle _)
  · rfl

theorem readOpening_question {f : Flags} {u : List Char} (hskip : skip f s = '?' :: u) :
    readOpening f s = readQuestion f u := by
  rw [readOpening, hskip]
  dsimp only
  split
  · next heq =>
      cases heq
      rfl
  · next heq =>
      cases heq
      rfl
  · next heq =>
      cases heq
      rfl
  · next heq =>
      cases heq
      rfl
  · next hname hahead hnot hangle heq =>
      cases heq
      rw [Letters.readQuestion_eq f ⟨hname, hahead, hnot, hangle⟩]
      rcases f.read [] false u with _ | ⟨g, _ | _, _ | _, rest⟩
      all_goals rfl
  · next h => exact (h _ rfl).elim

theorem readQuestion_abreast (f : Flags) (u : List Char) :
    Abreast (OpeningAhead u) OpeningSpent (readQuestion f u) (readQuestion f (u ++ [')'])) := by
  have hname : ∀ {v : List Char}, v <:+ u → Abreast (OpeningAhead u) OpeningSpent
      ((readName v).map fun (n, rest) => .group f (some n) rest)
      ((readName (v ++ [')'])).map fun (n, rest) => .group f (some n) rest) := by
    intro v hv
    refine (readName_abreast hv).map ?_ nofun
    rintro _ _ ⟨n, h⟩
    exact .group f (some n) h
  by_cases hletters : Letters u
  · rw [hletters.readQuestion_eq, hletters.append.readQuestion_eq]
    refine (f.read_abreast [] false List.suffix_rfl).bind ?_ ?_
    · rintro _ _ ⟨⟨g, colon, any⟩, h⟩
      cases colon with
      | true => exact .both (.group g none h)
      | false =>
          cases any with
          | true => exact .both (.directive g h)
          | false => exact .refused
    · rintro ⟨g, colon, any, rest⟩ ⟨hcolon, hrest⟩ o ho
      cases hcolon
      cases hrest
      cases any with
      | true => exact ⟨g, (Option.some.inj ho).symm⟩
      | false => cases ho
  · rcases exists_of_not_letters hletters with ⟨v, rfl⟩ | ⟨v, rfl⟩ | ⟨v, rfl⟩ | ⟨v, rfl⟩
    · exact hname (List.suffix_append ['P', '<'] v)
    · exact .refused
    · exact .refused
    · exact hname (List.suffix_cons '<' v)

theorem readOpening_abreast (f : Flags) (u : List Char) :
    Abreast (OpeningAhead u) OpeningSpent (readOpening f u) (readOpening f (u ++ [')'])) := by
  have hskip := (Beside.of_suffix (List.suffix_refl u)).skip f
  generalize hw : skip f u = w, hw' : skip f (u ++ [')']) = w' at hskip
  have hgroup : ∀ {v v' : List Char}, Beside u v v' → Abreast (OpeningAhead u) OpeningSpent
      (some (.group f none v)) (some (.group f none v')) :=
    fun h => .both (.group f none h)
  cases hskip with
  | closed =>
      rw [readOpening, readOpening, hw, hw']
      exact hgroup .closed
  | swallowed hline =>
      rw [readOpening, readOpening, hw, hw']
      exact hgroup (.swallowed hline)
  | @more c v hsuffix =>
      by_cases hc : c = '?'
      · subst hc
        rw [readOpening_question hw, readOpening_question hw']
        exact (readQuestion_abreast f v).mono
          (fun _ _ h => h.mono ((List.suffix_cons '?' v).trans hsuffix)) fun _ h => h
      · have hread : ∀ {s v : List Char}, skip f s = c :: v →
            readOpening f s = some (.group f none (c :: v)) := by
          intro s v hs
          rw [readOpening, hs]
          dsimp only
          split
          · next heq => exact absurd (List.cons.inj heq).1 hc
          · next heq => exact absurd (List.cons.inj heq).1 hc
          · next heq => exact absurd (List.cons.inj heq).1 hc
          · next heq => exact absurd (List.cons.inj heq).1 hc
          · next heq => exact absurd (List.cons.inj heq).1 hc
          · rfl
        rw [hread hw, hread hw']
        exact hgroup (.more hsuffix)

/-! ## Repetitions -/

theorem readCount_abreast (f : Flags) {n m : Nat} (sofar : Option Nat) (h : Beside s t t')
    (hn : t.length < n) (hm : t'.length < m) :
    Abreast (Ahead Prod.mk s) Never (readCount f n sofar t) (readCount f m sofar t') := by
  induction n generalizing m sofar t t' with
  | zero => cases hn
  | succ n ih =>
      obtain ⟨m, rfl⟩ := Nat.exists_eq_add_one_of_ne_zero (Nat.ne_zero_of_lt hm)
      cases h with
      | closed => exact .both ⟨sofar, .closed⟩
      | swallowed hline => exact .both ⟨sofar, .swallowed hline⟩
      | @more c u hsuffix =>
          have hu := length_skip_le f u
          have hu' := length_skip_le f (u ++ [')'])
          simp only [List.length_cons] at hn hm
          simp only [readCount]
          refine .ite (.ite ?_ .refused) ?_
          · exact ih _ ((Beside.tail hsuffix).skip f) (by omega) (by omega)
          · exact .both ⟨sofar, (Beside.more hsuffix).dropBlanks⟩

def counts (p : Nat × Option Nat) (rest : List Char) : Nat × Option Nat × List Char :=
  (p.1, p.2, rest)

/-- Reads the brace behind the greatest count of a repetition. -/
def closeCounts (least most : Nat) (s : List Char) : Option (Nat × Option Nat × List Char) :=
  match s with
  | '\x7d' :: rest => if least ≤ most then return (least, some most, rest) else none
  | _ => none

/-- Reads the greatest count of a repetition. -/
def readMost (f : Flags) (least : Nat) (s : List Char) : Option (Nat × Option Nat × List Char) := do
  let (most, rest) ← readCount f (s.length + 1) none s
  let most ← most
  closeCounts least most (skip f rest)

/-- Reads what follows the comma behind the least count of a repetition. -/
def readUpTo (f : Flags) (least : Nat) (s : List Char) : Option (Nat × Option Nat × List Char) :=
  match s with
  | '\x7d' :: rest => return (least, none, rest)
  | _ => readMost f least (s.dropWhile Unicode.isBlank)

/-- Reads what follows the least count of a repetition. -/
def readCountsBehind (f : Flags) (least : Nat) (s : List Char) :
    Option (Nat × Option Nat × List Char) :=
  match s with
  | '\x7d' :: rest => return (least, some least, rest)
  | ',' :: rest => readUpTo f least (skip f rest)
  | _ => none

theorem readCounts_eq (f : Flags) (s : List Char) :
    readCounts f s =
      (readCount f (((skip f s).dropWhile Unicode.isBlank).length + 1) none
        ((skip f s).dropWhile Unicode.isBlank)).bind fun p =>
          p.1.bind fun least => readCountsBehind f least (skip f p.2) := rfl

theorem closeCounts_abreast (least most : Nat) (h : Beside s t t') :
    Abreast (Ahead counts s) Never (closeCounts least most t) (closeCounts least most t') := by
  cases h with
  | closed => exact .refused
  | swallowed => exact .refused
  | @more c u hsuffix =>
      by_cases hbrace : c = '\x7d'
      · subst hbrace
        exact .ite (.ahead counts (least, some most) (.tail hsuffix)) .refused
      · have hread : ∀ v, closeCounts least most (c :: v) = none := by
          intro v
          simp [closeCounts, hbrace]
        rw [hread, hread]
        exact .refused

theorem readMost_abreast (f : Flags) (least : Nat) (h : Beside s t t') :
    Abreast (Ahead counts s) Never (readMost f least t) (readMost f least t') := by
  refine (readCount_abreast f none h (Nat.lt_succ_self _) (Nat.lt_succ_self _)).bind ?_ nofun
  rintro _ _ ⟨most, h⟩
  exact .same _ fun most => closeCounts_abreast least most (h.skip f)

theorem readUpTo_abreast (f : Flags) (least : Nat) (h : Beside s t t') :
    Abreast (Ahead counts s) Never (readUpTo f least t) (readUpTo f least t') := by
  have hmost := readMost_abreast f least h.dropBlanks
  cases h with
  | closed => exact hmost
  | swallowed => exact hmost
  | @more c u hsuffix =>
      by_cases hbrace : c = '\x7d'
      · subst hbrace
        exact .ahead counts (least, none) (.tail hsuffix)
      · have hread : ∀ v, readUpTo f least (c :: v) =
            readMost f least ((c :: v).dropWhile Unicode.isBlank) := by
          intro v
          simp [readUpTo, hbrace]
        rw [hread, hread]
        exact hmost

theorem readCountsBehind_abreast (f : Flags) (least : Nat) (h : Beside s t t') :
    Abreast (Ahead counts s) Never (readCountsBehind f least t) (readCountsBehind f least t') := by
  cases h with
  | closed => exact .refused
  | swallowed => exact .refused
  | @more c u hsuffix =>
      have htail := Beside.tail hsuffix
      by_cases hbrace : c = '\x7d'
      · subst hbrace
        exact .ahead counts (least, some least) htail
      by_cases hcomma : c = ','
      · subst hcomma
        exact readUpTo_abreast f least (htail.skip f)
      · have hread : ∀ v, readCountsBehind f least (c :: v) = none := by
          intro v
          simp [readCountsBehind, hbrace, hcomma]
        rw [hread, hread]
        exact .refused

theorem readCounts_abreast (f : Flags) (h : Beside s t t') :
    Abreast (Ahead counts s) Never (readCounts f t) (readCounts f t') := by
  rw [readCounts_eq, readCounts_eq]
  refine (readCount_abreast f none (h.skip f).dropBlanks (Nat.lt_succ_self _)
    (Nat.lt_succ_self _)).bind ?_ nofun
  rintro _ _ ⟨least, h⟩
  exact .same _ fun least => readCountsBehind_abreast f least (h.skip f)

def State.on (st : State) (rest : List Char) : State := { st with rest := rest }

/-- The question mark that a lazy repetition has behind it, and what follows. -/
def lazySign : List Char → Bool × List Char
  | '?' :: rest => (true, rest)
  | rest => (false, rest)

theorem lazySign_ahead (h : Beside s t t') : Ahead Prod.mk s (lazySign t) (lazySign t') := by
  cases h with
  | closed => exact ⟨false, .closed⟩
  | swallowed hline => exact ⟨false, .swallowed hline⟩
  | @more c v hsuffix =>
      by_cases hc : c = '?'
      · subst hc
        exact ⟨true, .tail hsuffix⟩
      · have hread : ∀ v, lazySign (c :: v) = (false, c :: v) := by
          intro v
          simp [lazySign, hc]
        rw [hread, hread]
        exact ⟨false, .more hsuffix⟩

theorem repeatLast_eq (st : State) (least : Nat) (most : Option Nat) (s : List Char) :
    repeatLast st least most s =
      match st.items with
      | [] => none
      | item :: items =>
        if item.directive then none
        else
          some <| State.on { st with
            items := ⟨.rep item.regex least most ((lazySign s).1 == st.flags.swapGreed),
              item.depth + 1, false⟩ :: items } (lazySign s).2 := rfl

theorem repeatLast_abreast (st : State) (least : Nat) (most : Option Nat) (u u' : List Char)
    (h : Beside s t t') :
    Abreast (Ahead State.on s) Never (repeatLast (st.on u) least most t)
      (repeatLast (st.on u') least most t') := by
  have hlazy := lazySign_ahead h
  rw [repeatLast_eq, repeatLast_eq]
  generalize lazySign t = p, lazySign t' = p' at hlazy
  obtain ⟨lazy, h⟩ := hlazy
  simp only [State.on]
  cases st.items with
  | nil => exact .refused
  | cons item items =>
      exact .ite .refused (.ahead State.on { st with
        items := ⟨.rep item.regex least most (lazy == st.flags.swapGreed), item.depth + 1,
          false⟩ :: items } h)

/-! ## Elements -/

/-- What an element that takes the parenthesis leaves: nothing, or a brace that stays open. -/
def Cut (f : Flags) (s : List Char) : Prop := s = [] ∨ OpenBrace f s

theorem readAtom_abreast (f : Flags) (c : Char) (u : List Char) :
    Abreast (Ahead Prod.mk u) (fun p => Cut f p.2) (readAtom f (c :: u))
      (readAtom f (c :: (u ++ [')']))) := by
  have hu : Beside u u (u ++ [')']) := .of_suffix List.suffix_rfl
  by_cases hback : c = '\\'
  · subst hback
    refine (readEscape_abreast f hu).bind ?_ ?_
    · rintro _ _ ⟨atom, h⟩
      exact .same _ fun r => .both ⟨r, h⟩
    · rintro ⟨atom, rest⟩ hspent p hp
      obtain ⟨r, -, hp⟩ := Option.bind_eq_some_iff.mp hp
      rw [← Option.some.inj hp]
      exact hspent.imp (fun h => h) And.right
  by_cases hdot : c = '.'
  · subst hdot
    exact .ite .refused (.ite (.both ⟨_, hu⟩) (.both ⟨_, hu⟩))
  by_cases hstart : c = '^'
  · subst hstart
    exact .both ⟨_, hu⟩
  by_cases hend : c = '$'
  · subst hend
    exact .both ⟨_, hu⟩
  · have hread : ∀ v, readAtom f (c :: v) =
        (atomRegex? f (.literal c false)).map fun r => (r, v) := by
      intro v
      simp [readAtom]
    rw [hread, hread]
    cases atomRegex? f (.literal c false) with
    | none => exact .refused
    | some r => exact .both ⟨r, hu⟩

/-! ## Constructs -/

/-- A reader that the end of the text stops: nothing is left, or a brace that stays open. -/
def State.Stopped (st : State) : Prop := Cut st.flags st.rest

/-- The characters that are no element when they come first. -/
def isConstruct (c : Char) : Bool := "()|[?*+\x7b".toList.contains c

theorem State.step_of_element (st : State) {c : Char} {u : List Char}
    (hskip : skip st.flags st.rest = c :: u) (hc : isConstruct c = false) :
    st.step = (readAtom st.flags (c :: u)).bind fun p =>
      some { st with rest := p.2, items := ⟨p.1, 0, false⟩ :: st.items } := by
  rw [State.step, hskip]
  dsimp only
  split
  · next heq => cases heq
  all_goals first
    | rfl
    | next heq =>
        cases heq
        cases hc

/-- The reader behind the end of a group, given what was read of the enclosing ones. -/
def State.leave (st : State) (frame : Frame) (frames : List Frame) : State :=
  { st with
    flags := frame.flags, frames := frames, branches := frame.branches,
    items := ⟨st.close.regex, st.close.depth + 1, false⟩ :: frame.items }

theorem State.group_abreast (st : State) {t t' u : List Char}
    (ht : skip st.flags t = '(' :: u) (ht' : skip st.flags t' = '(' :: (u ++ [')'])) :
    Abreast (Ahead State.on u) State.Stopped (st.on t).step (st.on t').step := by
  simp only [State.step, State.on, ht, ht']
  refine (readOpening_abreast st.flags u).bind ?_ ?_
  · rintro _ _ (⟨g, name, h⟩ | ⟨g, h⟩)
    · refine .ite .refused (.ahead State.on {
        rest := [], flags := g, names := name.toList ++ st.names, items := [], branches := [],
        frames := ⟨st.items, st.branches, st.flags⟩ :: st.frames } h)
    · exact .ahead State.on { st with flags := g, items := ⟨.empty, 0, true⟩ :: st.items } h
  · rintro o ⟨g, rfl⟩ st' hst'
    rw [← Option.some.inj hst']
    exact .inl rfl

theorem State.class_abreast (st : State) {t t' u : List Char}
    (ht : skip st.flags t = '[' :: u) (ht' : skip st.flags t' = '[' :: (u ++ [')'])) :
    Abreast (Ahead State.on u) State.Stopped (st.on t).step (st.on t').step := by
  have hu : Beside u u (u ++ [')']) := .of_suffix List.suffix_rfl
  simp only [State.step, State.on, ht, ht']
  refine (openClass_abreast st.flags [] hu).bind ?_ ?_
  · rintro _ _ ⟨opened, h⟩
    have hle := h.suffix.length_le
    have hle' := h.length_le
    refine (readClassItems_abreast st.flags opened h ?_ ?_).bind ?_ nofun
    · rw [List.length_cons]
      omega
    · rw [List.length_cons, List.length_append, List.length_singleton]
      omega
    · rintro _ _ ⟨⟨cls, depth⟩, h⟩
      exact .ahead State.on { st with items := ⟨.chars cls, depth, false⟩ :: st.items } h
  · intro opened hspent st' hst'
    obtain ⟨p, hp, -⟩ := Option.bind_eq_some_iff.mp hst'
    rw [readClassItems_eq_none st.flags _
      (.inr (by rw [show opened.rest = _ from hspent, skip_parenthesis]))] at hp
    cases hp

/-- The readers of a text and of the same text with a parenthesis behind take the same construct,
unless the parenthesis completes it. -/
theorem State.step_abreast (st : State) {t t' : List Char} {c : Char} {u : List Char}
    (ht : skip st.flags t = c :: u) (ht' : skip st.flags t' = c :: (u ++ [')'])) :
    Abreast (Ahead State.on u) State.Stopped (st.on t).step (st.on t').step := by
  have hu : Beside u u (u ++ [')']) := .of_suffix List.suffix_rfl
  have hrepeat : ∀ least most, Abreast (Ahead State.on u) State.Stopped
      (repeatLast (st.on t) least most u) (repeatLast (st.on t') least most (u ++ [')'])) :=
    fun least most => (repeatLast_abreast st least most t t' hu).mono (fun _ _ h => h) nofun
  by_cases hgroup : c = '('
  · subst hgroup
    exact st.group_abreast ht ht'
  by_cases hclass : c = '['
  · subst hclass
    exact st.class_abreast ht ht'
  by_cases hclose : c = ')'
  · subst hclose
    simp only [State.step, State.on, ht, ht']
    cases st.frames with
    | nil => exact .refused
    | cons frame frames => exact .ahead State.on (st.leave frame frames) hu
  by_cases hbranch : c = '|'
  · subst hbranch
    simp only [State.step, State.on, ht, ht']
    exact .ahead State.on
      { st with items := [], branches := joinItems st.items :: st.branches } hu
  by_cases hoption : c = '?'
  · subst hoption
    simp only [State.step, State.on, ht, ht']
    exact hrepeat 0 (some 1)
  by_cases hstar : c = '*'
  · subst hstar
    simp only [State.step, State.on, ht, ht']
    exact hrepeat 0 none
  by_cases hplus : c = '+'
  · subst hplus
    simp only [State.step, State.on, ht, ht']
    exact hrepeat 1 none
  by_cases hbrace : c = '\x7b'
  · subst hbrace
    simp only [State.step, State.on, ht, ht']
    refine (readCounts_abreast st.flags hu).bind ?_ nofun
    rintro _ _ ⟨⟨least, most⟩, h⟩
    exact (repeatLast_abreast st least most t t' (h.skip st.flags)).mono (fun _ _ h => h) nofun
  · have hconstruct : isConstruct c = false := by
      simp [isConstruct, hgroup, hclass, hclose, hbranch, hoption, hstar, hplus, hbrace]
    rw [(st.on t).step_of_element ht hconstruct,
      (st.on t').step_of_element ht' hconstruct]
    refine (readAtom_abreast st.flags c u).bind ?_ ?_
    · rintro _ _ ⟨r, h⟩
      exact .ahead State.on { st with items := ⟨r, 0, false⟩ :: st.items } h
    · intro p hcut st' hst'
      rw [← Option.some.inj hst']
      exact hcut

end TopicBridge.Regex
