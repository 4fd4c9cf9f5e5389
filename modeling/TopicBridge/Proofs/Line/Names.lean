import TopicBridge.Proofs.Line.Reader

/-! # Names in lines

A name that is written with marks and followed by a stop is read back unless it ends in a backslash.
No name that is read ends in one, since it would mark the stop. Characters can be marked all at once
or in turn, if the backslash comes first. -/

namespace TopicBridge.Line

variable {marked stops : List Char}

/-! ## What is read -/

theorem readName_stop {c : Char} (hc : c ∈ stops) (hslash : c ≠ '\\') (s : List Char) :
    readName marked stops (c :: s) = ([], c :: s) := by
  cases s with
  | nil => simp [readName, hc]
  | cons d s => simp [readName, hc, hslash]

theorem readName_marked {c : Char} (hc : c ∈ marked) (s : List Char) :
    readName marked stops ('\\' :: c :: s) =
      (c :: (readName marked stops s).1, (readName marked stops s).2) := by
  simp [readName, hc]

theorem readName_plain {c : Char} {s : List Char} (hc : c ∉ stops)
    (hnext : c = '\\' → ∀ d ∈ s.head?, d ∉ marked) :
    readName marked stops (c :: s) =
      (c :: (readName marked stops s).1, (readName marked stops s).2) := by
  cases s with
  | nil => simp [readName, hc]
  | cons d s =>
      have hmark : ¬ (c = '\\' ∧ d ∈ marked) := fun h => hnext h.1 d rfl h.2
      rw [readName, if_neg hmark, if_neg hc]

theorem rest_readName_of_nil {s : List Char} (h : (readName marked stops s).1 = []) :
    (readName marked stops s).2 = s := by
  fun_cases readName with
  | case1 => rfl
  | case2 c hc => rfl
  | case3 c hc => simp [readName, hc] at h
  | case4 c d cs hmark => simp [readName, hmark] at h
  | case5 c d cs hmark hc => rfl
  | case6 c d cs hmark hc => simp [readName, hmark, hc] at h

theorem mem_stops_of_readName {s rest : List Char} {c : Char}
    (h : (readName marked stops s).2 = c :: rest) : c ∈ stops := by
  induction s using readName.induct marked stops with
  | case1 => simp [readName] at h
  | case2 c hc => simp [readName, hc] at h; exact h.1 ▸ hc
  | case3 c hc => simp [readName, hc] at h
  | case4 c d cs hmark ih => exact ih (by simpa [readName, hmark] using h)
  | case5 c d cs hmark hc => simp [readName, hmark, hc] at h; exact h.1 ▸ hc
  | case6 c d cs hmark hc ih => exact ih (by simpa [readName, hmark, hc] using h)

/-- A backslash in front of a stop marks it, so no name ends in one. -/
theorem getLast?_readName {s : List Char} (hstops : stops ⊆ marked) (hslash : '\\' ∉ marked)
    (hrest : (readName marked stops s).2 ≠ []) :
    (readName marked stops s).1.getLast? ≠ some '\\' := by
  fun_induction readName marked stops s with
  | case1 => simp
  | case2 c hc => simp
  | case3 c hc => simp at hrest
  | case4 c d cs hmark ih =>
      cases hname : (readName marked stops cs).1 with
      | nil =>
          intro hlast
          rw [List.getLast?_singleton, Option.some.injEq] at hlast
          exact hslash (hlast ▸ hmark.2)
      | cons e name => rw [List.getLast?_cons_cons, ← hname]; exact ih hrest
  | case5 c d cs hmark hc => simp
  | case6 c d cs hmark hc ih =>
      cases hname : (readName marked stops (d :: cs)).1 with
      | nil =>
          -- what follows the last character is a stop, so this character is no backslash
          have hd : d ∈ stops := mem_stops_of_readName (rest_readName_of_nil hname)
          intro hlast
          rw [List.getLast?_singleton, Option.some.injEq] at hlast
          exact hmark ⟨hlast, hstops hd⟩
      | cons e name => rw [List.getLast?_cons_cons, ← hname]; exact ih hrest

/-! ## What is written -/

theorem mark_cons (c : Char) (s : List Char) :
    mark marked (c :: s) = (if c ∈ marked then ['\\', c] else [c]) ++ mark marked s := by
  simp [mark]

/-- A text with another one in the place of every occurrence of a character. -/
def replaced (c : Char) (put s : List Char) : List Char :=
  s.flatMap fun d => if d = c then put else [d]

/-- Marks characters by one replacement after the other. -/
def markInTurn (marked s : List Char) : List Char :=
  marked.foldl (fun s c => replaced c ['\\', c] s) s

/-- Marking one more character afterwards leaves the marks that are there alone. -/
theorem replaced_mark {c : Char} (hc : c ∉ marked) (hslash : c ≠ '\\') (s : List Char) :
    replaced c ['\\', c] (mark marked s) = mark (marked ++ [c]) s := by
  rw [replaced, mark, mark, List.flatMap_assoc]
  refine List.flatMap_congr fun d _ => ?_
  by_cases hd : d ∈ marked
  · have hdc : d ≠ c := fun h => hc (h ▸ hd)
    simp [hd, hdc, Ne.symm hslash]
  · by_cases hdc : d = c
    · subst hdc
      simp [hd]
    · simp [hd, hdc]

theorem replaced_eq_mark (c : Char) (s : List Char) : replaced c ['\\', c] s = mark [c] s := by
  refine List.flatMap_congr fun d _ => ?_
  by_cases hdc : d = c
  · subst hdc
    simp
  · simp [hdc]

theorem foldl_replaced_mark {cs : List Char} (hcs : (marked ++ cs).Nodup) (hslash : '\\' ∉ cs)
    (s : List Char) :
    cs.foldl (fun s c => replaced c ['\\', c] s) (mark marked s) = mark (marked ++ cs) s := by
  induction cs generalizing marked with
  | nil => simp
  | cons c cs ih =>
      have hc : c ∉ marked := fun h =>
        (List.nodup_append.mp hcs).2.2 c h c List.mem_cons_self rfl
      have hne : c ≠ '\\' := fun h => hslash (h ▸ List.mem_cons_self)
      rw [List.append_cons] at hcs
      rw [List.foldl_cons, replaced_mark hc hne, List.append_cons marked c cs]
      exact ih hcs fun h => hslash (List.mem_cons_of_mem _ h)

/-- Marking all characters at once comes to marking them in turn, the backslash first. -/
theorem markInTurn_eq_mark {c : Char} {cs : List Char} (hcs : (c :: cs).Nodup)
    (hslash : '\\' ∉ cs) (s : List Char) : markInTurn (c :: cs) s = mark (c :: cs) s := by
  rw [markInTurn, List.foldl_cons, replaced_eq_mark]
  exact foldl_replaced_mark hcs hslash s

/-- A name without a backslash at its end is read back up to the stop after it. -/
theorem readName_mark {s : List Char} (hstops : stops ⊆ marked) (hslash : '\\' ∉ stops)
    (hs : '\\' ∈ marked ∨ s.getLast? ≠ some '\\') {stop : Char} (hstop : stop ∈ stops)
    (rest : List Char) :
    readName marked stops (mark marked s ++ stop :: rest) = (s, stop :: rest) := by
  induction s with
  | nil => exact readName_stop hstop (fun h => hslash (h ▸ hstop)) rest
  | cons c s ih =>
      have htail : '\\' ∈ marked ∨ s.getLast? ≠ some '\\' := by
        refine hs.imp_right fun hlast => ?_
        cases s with
        | nil => simp
        | cons d s => rwa [List.getLast?_cons_cons] at hlast
      rw [mark_cons]
      by_cases hc : c ∈ marked
      · simp only [if_pos hc, List.cons_append, List.nil_append]
        rw [readName_marked hc, ih htail]
      · rw [if_neg hc, List.append_assoc, List.singleton_append]
        have hnext : c = '\\' → ∀ d ∈ (mark marked s ++ stop :: rest).head?, d ∉ marked := by
          intro heq d hd
          subst heq
          cases s with
          | nil => simp [hc] at hs
          | cons e s =>
              rw [mark_cons] at hd
              by_cases he : e ∈ marked
              · simp [he] at hd
                exact hd ▸ hc
              · simp [he] at hd
                exact hd ▸ he
        rw [readName_plain (fun h => hc (hstops h)) hnext, ih htail]

end TopicBridge.Line
