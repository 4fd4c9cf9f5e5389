import TopicBridge.Proofs.Regex.Closing.Steps

/-! # Reading a text within a group

A text is read within a group as it is read alone, with two exceptions. The text may close the
group itself, although it has opened none. Or it ends in a comment, which the parenthesis behind
only makes longer. -/

namespace TopicBridge.Regex

/-! ## Reading to the end -/

theorem State.rest_suffix_of_step {st st' : State} (hstep : st.step = some st') :
    st'.rest <:+ st.rest.tail := by
  cases hskip : skip st.flags st.rest with
  | nil =>
      have hst : st.step = some { st with rest := [] } := by rw [State.step, hskip]
      rw [← Option.some.inj (hst.symm.trans hstep)]
      exact List.nil_suffix
  | cons c u =>
      have h := st.step_abreast hskip (skip_append_of_cons hskip)
      rw [show st.on st.rest = st from rfl, hstep] at h
      generalize (st.on (st.rest ++ [')'])).step = y at h
      cases h with
      | both h =>
          obtain ⟨a, h⟩ := h
          refine h.suffix.trans ?_
          obtain ⟨front, hfront⟩ := skip_suffix st.flags st.rest
          rw [← hfront, hskip]
          cases front with
          | nil => exact List.suffix_rfl
          | cons d front => exact (List.suffix_cons c u).trans (List.suffix_append front _)

theorem State.length_rest_lt_of_step {st st' : State} (hrest : st.rest ≠ [])
    (hstep : st.step = some st') : st'.rest.length < st.rest.length := by
  have hle := (State.rest_suffix_of_step hstep).length_le
  have hpos := List.length_pos_iff.mpr hrest
  rw [List.length_tail] at hle
  omega

theorem State.run_of_rest_eq_nil (n : Nat) {st : State} (hrest : st.rest = []) :
    State.run n st = some st := by
  cases n with
  | zero => rw [State.run, hrest, List.isEmpty_nil, if_pos rfl]
  | succ n => rw [State.run, hrest, List.isEmpty_nil, if_pos rfl]

theorem State.run_succ (n : Nat) {st : State} (hrest : st.rest ≠ []) :
    State.run (n + 1) st = st.step.bind (State.run n) := by
  rw [State.run, if_neg (by simpa using hrest)]

/-- More fuel than characters changes nothing. -/
theorem State.run_eq_of_le {n m : Nat} {st : State} (hn : st.rest.length ≤ n)
    (hm : st.rest.length ≤ m) : State.run n st = State.run m st := by
  induction n generalizing m st with
  | zero =>
      have hrest : st.rest = [] := List.length_eq_zero_iff.mp (Nat.le_zero.mp hn)
      rw [State.run_of_rest_eq_nil 0 hrest, State.run_of_rest_eq_nil m hrest]
  | succ n ih =>
      by_cases hrest : st.rest = []
      · rw [State.run_of_rest_eq_nil _ hrest, State.run_of_rest_eq_nil m hrest]
      · have hpos := List.length_pos_iff.mpr hrest
        obtain ⟨m, rfl⟩ := Nat.exists_eq_add_one_of_ne_zero (show m ≠ 0 by omega)
        rw [State.run_succ n hrest, State.run_succ m hrest]
        cases hstep : st.step with
        | none => rfl
        | some st' =>
            have hlt := State.length_rest_lt_of_step hrest hstep
            exact ih (by omega) (by omega)

/-- The expression of a reader at the end of its text, if no group is open. -/
def State.item? (st : State) : Option Item := if st.frames.isEmpty then some st.close else none

/-- The expression that a reader comes to. -/
def State.outcome (st : State) : Option Item := (State.run st.rest.length st).bind State.item?

theorem State.outcome_of_rest_eq_nil (st : State) (hrest : st.rest = []) :
    st.outcome = st.item? := by
  rw [State.outcome, State.run_of_rest_eq_nil _ hrest, Option.bind_some]

theorem State.outcome_eq_bind_step (st : State) (hrest : st.rest ≠ []) :
    st.outcome = st.step.bind State.outcome := by
  have hpos := List.length_pos_iff.mpr hrest
  obtain ⟨n, hn⟩ := Nat.exists_eq_add_one_of_ne_zero (Nat.ne_of_gt hpos)
  rw [State.outcome, hn, State.run_succ n hrest]
  cases hstep : st.step with
  | none => rfl
  | some st' =>
      have hlt := State.length_rest_lt_of_step hrest hstep
      rw [Option.bind_some, Option.bind_some, State.outcome,
        State.run_eq_of_le (show st'.rest.length ≤ n by omega) (Nat.le_refl _)]

/-- The reader of a text from its start. -/
def State.start (s : List Char) : State := ⟨s, {}, [], [], [], []⟩

/-- Reads a regular expression, whatever the depth of its nesting and its size. -/
def read? (s : List Char) : Option Item := (State.start s).outcome

theorem parse?_eq (s : List Char) :
    parse? s = (read? s).bind fun item =>
      if item.depth ≤ depthLimit ∧ item.regex.room ≤ roomLimit then some item.regex else none := by
  rw [parse?, read?, State.outcome, State.start]
  cases State.run s.length ⟨s, {}, [], [], [], []⟩ with
  | none => rfl
  | some st =>
      simp only [Option.bind_eq_bind, Option.bind_some, State.item?]
      cases st.frames with
      | nil => rfl
      | cons frame frames => rfl

/-! ## Reading within enclosing groups -/

/-- The reader with further groups around those that are open. -/
def State.under (st : State) (outer : List Frame) : State :=
  { st with frames := st.frames ++ outer }

/-- A parenthesis comes for which no group is open. -/
def State.Overclosed (st : State) : Prop :=
  st.frames = [] ∧ ∃ u, skip st.flags st.rest = ')' :: u

theorem repeatLast_under (st : State) (outer : List Frame) (least : Nat) (most : Option Nat)
    (s : List Char) :
    repeatLast (st.under outer) least most s =
      (repeatLast st least most s).map (·.under outer) := by
  rw [repeatLast_eq, repeatLast_eq]
  simp only [State.under]
  cases st.items with
  | nil => rfl
  | cons item items =>
      dsimp only
      split_ifs
      · rfl
      · rfl

/-- A construct is taken the same way within further groups, unless it closes one of them. -/
theorem State.step_under {st : State} (outer : List Frame) (h : ¬st.Overclosed) :
    (st.under outer).step = st.step.map (·.under outer) := by
  simp only [State.step, State.under]
  split
  · rfl
  · next cs _ =>
      cases readOpening st.flags cs with
      | none => rfl
      | some o =>
          cases o with
          | directive g rest => rfl
          | group g name rest =>
              cases name with
              | none => rfl
              | some n =>
                  by_cases hn : n ∈ st.names
                  · simp [hn]
                  · simp [hn]
  · next u hskip =>
      cases hframes : st.frames with
      | nil => exact absurd ⟨hframes, u, hskip⟩ h
      | cons frame frames => rfl
  · rfl
  · next cs _ =>
      cases openClass st.flags [] cs with
      | none => rfl
      | some opened =>
          simp only [Option.bind_eq_bind, Option.bind_some]
          cases readClassItems st.flags _ opened with
          | none => rfl
          | some p => rfl
  · exact repeatLast_under st outer 0 (some 1) _
  · exact repeatLast_under st outer 0 none _
  · exact repeatLast_under st outer 1 none _
  · next cs _ =>
      cases readCounts st.flags cs with
      | none => rfl
      | some p => exact repeatLast_under st outer p.1 p.2.1 _
  · cases readAtom st.flags (skip st.flags st.rest) with
    | none => rfl
    | some p => rfl

/-- The expression of a group with its surroundings, where the text ends behind it. -/
def Frame.closing (frame : Frame) (item : Item) : Item :=
  joinBranches (joinItems (⟨item.regex, item.depth + 1, false⟩ :: frame.items) :: frame.branches)

/-- Reading a text closes a group that it has not opened. -/
inductive State.Overcloses : State → Prop
  | here {st : State} (h : st.Overclosed) : Overcloses st
  | later {st st' : State} (hstep : st.step = some st') (h : Overcloses st') : Overcloses st

theorem State.item?_under_singleton (st : State) (frame : Frame) :
    (st.under [frame]).item? = none := by
  simp [State.item?, State.under]

theorem State.outcome_of_skip_eq_nil (st : State) (hskip : skip st.flags st.rest = []) :
    st.outcome = st.item? := by
  by_cases hrest : st.rest = []
  · exact State.outcome_of_rest_eq_nil st hrest
  · rw [State.outcome_eq_bind_step st hrest, State.step, hskip, Option.bind_some,
      State.outcome_of_rest_eq_nil _ rfl]
    rfl

theorem State.rest_ne_nil_of_skip {st : State} {c : Char} {u : List Char}
    (hskip : skip st.flags st.rest = c :: u) : st.rest ≠ [] := by
  intro hrest
  rw [hrest, skip_nil] at hskip
  cases hskip

theorem State.not_overclosed_of_skip {st : State} {c : Char} {u : List Char}
    (hskip : skip st.flags st.rest = c :: u) (hc : c ≠ ')') : ¬st.Overclosed := by
  rintro ⟨-, v, hv⟩
  exact hc (List.cons.inj (hskip.symm.trans hv)).1

theorem State.Overclosed.outcome_eq_none {st : State} (h : st.Overclosed) : st.outcome = none := by
  obtain ⟨hframes, u, hskip⟩ := h
  have hstep : st.step = none := by simp only [State.step, hskip, hframes]
  rw [State.outcome_eq_bind_step st (State.rest_ne_nil_of_skip hskip), hstep]
  rfl

/-- Within a group, a reader that the end of the text stops comes to nothing. -/
theorem State.Stopped.outcome_under {st : State} (h : st.Stopped) (frame : Frame) :
    (st.under [frame]).outcome = none := by
  rcases h with hrest | ⟨w, hrest, hw⟩
  · rw [State.outcome_of_rest_eq_nil (st.under [frame]) hrest,
      State.item?_under_singleton]
  · have hskip : skip st.flags st.rest = '\x7b' :: w := by rw [hrest, skip_brace]
    have hstep : st.step = none := by
      have hcounts : readCounts st.flags w = none := by
        rw [readCounts_eq, hw]
        rfl
      rw [State.step, hskip]
      change (readCounts st.flags w).bind _ = none
      rw [hcounts, Option.bind_none]
    rw [State.outcome_eq_bind_step (st.under [frame]) (State.rest_ne_nil_of_skip hskip),
      State.step_under _ (State.not_overclosed_of_skip hskip (by decide)), hstep]
    rfl

/-- What becomes of a text within a group, by what becomes of it alone: it is read as it is alone,
or the parenthesis behind belongs to a comment, or neither is read, or the text closes the group. -/
inductive State.Grouped (st : State) : Prop
  | kept (item : Item) (alone : st.outcome = some item)
    (behind : (st.on (st.rest ++ [')'])).outcome = none)
    (within : ∀ frame, ((st.on (st.rest ++ [')'])).under [frame]).outcome =
      some (frame.closing item))
  | swallowed (line : LastLineSign st.rest)
    (behind : (st.on (st.rest ++ [')'])).outcome = st.outcome)
    (within : ∀ frame, ((st.on (st.rest ++ [')'])).under [frame]).outcome = none)
  | refused (alone : st.outcome = none)
    (within : ∀ frame, ((st.on (st.rest ++ [')'])).under [frame]).outcome = none)
  | overclosed (alone : st.outcome = none) (overcloses : st.Overcloses)

/-- At the end of the text the parenthesis behind is all that is left. -/
theorem State.grouped_of_skip_eq_nil {st : State} (hskip : skip st.flags st.rest = []) :
    st.Grouped := by
  have halone := State.outcome_of_skip_eq_nil st hskip
  have hbeside := (Beside.of_suffix (List.suffix_refl st.rest)).skip st.flags
  rw [hskip] at hbeside
  generalize hbehind : skip st.flags (st.rest ++ [')']) = w at hbeside
  cases hbeside with
  | swallowed hline =>
      refine .swallowed hline ?_ fun frame => ?_
      · rw [State.outcome_of_skip_eq_nil (st.on (st.rest ++ [')'])) hbehind, halone]
        rfl
      · rw [State.outcome_of_skip_eq_nil ((st.on (st.rest ++ [')'])).under [frame]) hbehind,
          State.item?_under_singleton]
  | closed =>
      have hrest : st.rest ++ [')'] ≠ [] := by simp
      cases hframes : st.frames with
      | nil =>
          refine .kept st.close ?_ ?_ fun frame => ?_
          · rw [halone, State.item?, hframes]
            rfl
          · have hstep : (st.on (st.rest ++ [')'])).step = none := by
              simp only [State.step, State.on, hbehind, hframes]
            rw [State.outcome_eq_bind_step (st.on (st.rest ++ [')'])) hrest, hstep]
            rfl
          · have hstep : ((st.on (st.rest ++ [')'])).under [frame]).step =
                some ((st.on []).leave frame []) := by
              simp only [State.step, State.on, State.under, hbehind, hframes]
              rfl
            rw [State.outcome_eq_bind_step ((st.on (st.rest ++ [')'])).under [frame]) hrest,
              hstep, Option.bind_some, State.outcome_of_rest_eq_nil _ rfl]
            rfl
      | cons inner frames =>
          refine .refused ?_ fun frame => ?_
          · rw [halone, State.item?, hframes]
            rfl
          · have hstep : ((st.on (st.rest ++ [')'])).under [frame]).step =
                some (((st.on []).leave inner frames).under [frame]) := by
              simp only [State.step, State.on, State.under, hbehind, hframes]
              rfl
            rw [State.outcome_eq_bind_step ((st.on (st.rest ++ [')'])).under [frame]) hrest,
              hstep, Option.bind_some, State.outcome_of_rest_eq_nil _ rfl,
              State.item?_under_singleton]

/-- What becomes of a text behind a construct that both readers have taken. -/
theorem State.Grouped.of_step {st next : State} (h : next.Grouped) (hsuffix : next.rest <:+ st.rest)
    (hstep : st.step = some next) (halone : st.outcome = next.outcome)
    (hbehind : (st.on (st.rest ++ [')'])).outcome = (next.on (next.rest ++ [')'])).outcome)
    (hwithin : ∀ frame, ((st.on (st.rest ++ [')'])).under [frame]).outcome =
      ((next.on (next.rest ++ [')'])).under [frame]).outcome) : st.Grouped := by
  cases h with
  | kept item alone behind within =>
      exact .kept item (halone.trans alone) (hbehind.trans behind)
        fun frame => (hwithin frame).trans (within frame)
  | swallowed line behind within =>
      exact .swallowed (line.of_suffix hsuffix) (hbehind.trans (behind.trans halone.symm))
        fun frame => (hwithin frame).trans (within frame)
  | refused alone within =>
      exact .refused (halone.trans alone) fun frame => (hwithin frame).trans (within frame)
  | overclosed alone overcloses =>
      exact .overclosed (halone.trans alone) (.later hstep overcloses)

theorem State.grouped (st : State) : st.Grouped := by
  induction hn : st.rest.length using Nat.strongRecOn generalizing st with
  | ind n ih =>
      cases hskip : skip st.flags st.rest with
      | nil => exact State.grouped_of_skip_eq_nil hskip
      | cons c u =>
          have hrest := State.rest_ne_nil_of_skip hskip
          have halone := State.outcome_eq_bind_step st hrest
          by_cases hover : st.Overclosed
          · exact .overclosed hover.outcome_eq_none (.here hover)
          have hskip' := skip_append_of_cons hskip
          have hover' : ¬(st.on (st.rest ++ [')'])).Overclosed := by
            rintro ⟨hframes, v, hv⟩
            have hc : c = ')' := (List.cons.inj (hskip'.symm.trans hv)).1
            exact hover ⟨hframes, u, hc ▸ hskip⟩
          have hrest' : st.rest ++ [')'] ≠ [] := by simp
          have hbehind := State.outcome_eq_bind_step (st.on (st.rest ++ [')'])) hrest'
          have hwithin : ∀ frame, ((st.on (st.rest ++ [')'])).under [frame]).outcome =
              ((st.on (st.rest ++ [')'])).step.map (·.under [frame])).bind State.outcome := by
            intro frame
            rw [State.outcome_eq_bind_step ((st.on (st.rest ++ [')'])).under [frame]) hrest',
              State.step_under _ hover']
          -- no group is closed from outside, so what the readers do in step they do in the group
          have habreast := st.step_abreast hskip hskip'
          rw [show st.on st.rest = st from rfl] at habreast
          generalize hx : st.step = x, (st.on (st.rest ++ [')'])).step = y at *
          cases habreast with
          | refused =>
              exact .refused halone hwithin
          | lone hstopped =>
              exact .refused halone fun frame =>
                (hwithin frame).trans (hstopped.outcome_under frame)
          | both h =>
              obtain ⟨a, h⟩ := h
              have hu : u <:+ st.rest :=
                (List.suffix_cons c u).trans (hskip ▸ skip_suffix st.flags st.rest)
              rcases h.eq_append_or with rfl | ⟨rfl, rfl, hline⟩
              · have hlt := State.length_rest_lt_of_step hrest hx
                exact (ih _ (hn ▸ hlt) _ rfl).of_step (h.suffix.trans hu) hx halone hbehind hwithin
              · have hnone : ∀ frame, ((a.on []).under [frame]).outcome = none := by
                  intro frame
                  rw [State.outcome_of_rest_eq_nil _ rfl, State.item?_under_singleton]
                exact .swallowed (hline.of_suffix hu) (hbehind.trans halone.symm)
                  fun frame => (hwithin frame).trans (hnone frame)

/-! ## Rules alone and in a group -/

/-- A text ends in a comment: a parenthesis behind it, for which no group is open, changes
nothing. -/
def EndsInComment (s : List Char) : Prop := (read? s).isSome ∧ read? (s ++ [')']) = read? s

/-- A text closes a group that it has not opened. -/
def Overcloses (s : List Char) : Prop := (State.start s).Overcloses

/-- The outcome of a text within a group. -/
def readWithin? (frame : Frame) (s : List Char) : Option Item :=
  (((State.start s).on (s ++ [')'])).under [frame]).outcome

/-- Within a group a well-formed text is read as it is read alone. -/
theorem readWithin?_of_not_endsInComment {s : List Char} {item : Item} (h : read? s = some item)
    (hcomment : ¬EndsInComment s) (frame : Frame) :
    readWithin? frame s = some (frame.closing item) := by
  have hsome : (read? s).isSome := Option.isSome_of_eq_some h
  cases (State.start s).grouped with
  | kept item' alone _ within =>
      rw [Option.some.inj (h.symm.trans alone)]
      exact within frame
  | swallowed _ behind _ => exact absurd ⟨hsome, behind⟩ hcomment
  | refused alone _ => cases h.symm.trans alone
  | overclosed alone _ => cases h.symm.trans alone

/-- Within a group a text that ends in a comment leaves the group open. -/
theorem readWithin?_of_endsInComment {s : List Char} (h : EndsInComment s) (frame : Frame) :
    readWithin? frame s = none := by
  obtain ⟨item, hitem⟩ := Option.isSome_iff_exists.mp h.1
  cases (State.start s).grouped with
  | kept _ alone behind _ => cases hitem.symm.trans (h.2.symm.trans behind)
  | swallowed _ _ within => exact within frame
  | refused _ within => exact within frame
  | overclosed alone _ => cases hitem.symm.trans alone

theorem EndsInComment.lastLineSign {s : List Char} (h : EndsInComment s) : LastLineSign s := by
  obtain ⟨item, hitem⟩ := Option.isSome_iff_exists.mp h.1
  cases (State.start s).grouped with
  | kept _ alone behind _ => cases hitem.symm.trans (h.2.symm.trans behind)
  | swallowed line _ _ => exact line
  | refused alone _ => cases hitem.symm.trans alone
  | overclosed alone _ => cases hitem.symm.trans alone

/-- What is no expression alone is none within a group, unless it closes the group. -/
theorem overcloses_of_readWithin? {s : List Char} (h : read? s = none) {frame : Frame}
    (hwithin : (readWithin? frame s).isSome) : Overcloses s := by
  obtain ⟨item, hitem⟩ := Option.isSome_iff_exists.mp hwithin
  cases (State.start s).grouped with
  | kept _ alone _ _ => cases h.symm.trans alone
  | swallowed _ _ within => cases hitem.symm.trans (within frame)
  | refused _ within => cases hitem.symm.trans (within frame)
  | overclosed _ overcloses => exact overcloses

theorem Overcloses.parenthesis_mem {s : List Char} (h : Overcloses s) : ')' ∈ s := by
  have hmem : ∀ {st : State}, st.Overcloses → ')' ∈ st.rest := by
    intro st h
    induction h with
    | @here st h =>
        obtain ⟨-, u, hskip⟩ := h
        exact (skip_suffix st.flags st.rest).mem (hskip ▸ List.mem_cons_self)
    | later hstep _ ih => exact List.mem_of_mem_tail ((State.rest_suffix_of_step hstep).mem ih)
  exact hmem h

/-- What closes a group that it has not opened is no expression. -/
theorem Overcloses.read?_eq_none {s : List Char} (h : Overcloses s) : read? s = none := by
  have hnone : ∀ {st : State}, st.Overcloses → st.outcome = none := by
    intro st h
    induction h with
    | here h => exact h.outcome_eq_none
    | @later st st' hstep _ ih =>
        by_cases hrest : st.rest = []
        · have hst : st.step = some { st with rest := [] } := by
            rw [State.step, hrest, skip_nil]
          rw [State.outcome_of_rest_eq_nil st hrest]
          rw [← Option.some.inj (hst.symm.trans hstep), State.outcome_of_rest_eq_nil _ rfl] at ih
          exact ih
        · rw [State.outcome_eq_bind_step st hrest, hstep]
          exact ih
  exact hnone h

end TopicBridge.Regex
