import TopicBridge.Proofs.Regex.Ways

/-! # A search settles for the preferred way

Threads are followed side by side and those that would continue alike are merged. The result is
still the first way in order of preference, as if the ways were tried one after the other. -/

namespace TopicBridge.Regex

/-! ## Cutting and expanding threads -/

/-- The ends of the ways of a thread from a place on. -/
def Thread.ways (prev : Option Char) (pos : Nat) (text : List Char) (t : Thread) : List Spot :=
  t.rest.ways ⟨prev, pos, t.marks, text⟩

/-- The ends of the ways of a thread that is to consume a character of a class first. -/
def stepWays (pos : Nat) (text : List Char) (step : CharClass × Thread) : List Spot :=
  match text with
  | [] => []
  | c :: cs => if step.1.holds c then step.2.ways (some c) (pos + 1) cs else []

private theorem head?_append_flatMap {α β : Type} (f : α → List β) (a : α) (as : List α)
    (last : Option β) :
    ((a :: as).flatMap f).head?.or last = (f a).head?.or ((as.flatMap f).head?.or last) := by
  simp [List.head?_append, Option.or_assoc]

/-- `cut` keeps the preferred end: what is behind the first way that is done is not preferred. -/
theorem cut_spec (s : Spot) (hs : List Head) :
    (hs.flatMap (through s)).head? =
      ((cut s.marks s.pos hs).1.flatMap (stepWays s.pos s.rest)).head?.or
        ((cut s.marks s.pos hs).2.map fun marks => { s with marks := marks }) := by
  induction hs with
  | nil => rfl
  | cons h hs ih =>
      cases h with
      | done ms => rfl
      | step ms cls rest =>
          rw [cut, head?_append_flatMap, ← ih, List.flatMap_cons, List.head?_append]
          rfl

/-- `expand` keeps the preferred end among those of all threads. -/
theorem expand_spec (prev : Option Char) (pos : Nat) (text : List Char) (threads : List Thread) :
    (threads.flatMap (Thread.ways prev pos text)).head? =
      ((expand prev text.head? pos threads).1.flatMap (stepWays pos text)).head?.or
        ((expand prev text.head? pos threads).2.map fun marks => ⟨prev, pos, marks, text⟩) := by
  induction threads with
  | nil => rfl
  | cons t ts ih =>
      have hcut := cut_spec ⟨prev, pos, t.marks, text⟩ (heads prev text.head? t.rest)
      rw [← ways_eq] at hcut
      rw [List.flatMap_cons, List.head?_append, expand, Thread.ways, hcut]
      cases hc : cut t.marks pos (heads prev text.head? t.rest) with
      | mk steps done =>
          cases done with
          | none => simp [ih, List.head?_append, Option.or_assoc]
          | some marks => simp

/-! ## Merging threads -/

/-- Whether there is a way does not depend on the marks passed before. -/
theorem ways_eq_nil_of_marks {r : Regex} {s : Spot} (h : ways r s = []) (marks : Marks) :
    ways r { s with marks := marks } = [] := by
  induction hn : s.rest.length generalizing r s marks with
  | zero =>
      have hr : s.rest = [] := List.length_eq_zero_iff.mp hn
      rw [ways_eq, List.flatMap_eq_nil_iff] at h ⊢
      intro head hh
      cases head with
      | done ms => simpa using h _ hh
      | step ms cls rest => simp [through, hr]
  | succ n ih =>
      obtain ⟨c, cs, hr⟩ := List.exists_cons_of_length_eq_add_one hn
      rw [ways_eq, List.flatMap_eq_nil_iff] at h ⊢
      intro head hh
      cases head with
      | done ms => simpa using h _ hh
      | step ms cls rest =>
          have hstep := h _ hh
          simp only [through, hr] at hstep ⊢
          by_cases hc : cls.holds c = true
          · simp only [hc, if_true] at hstep ⊢
            exact ih hstep _ (by simp [hr] at hn; exact hn)
          · simp [hc]

private theorem flatMap_filter_of_nil {α β : Type} {p : α → Bool} {f : α → List β} {xs : List α}
    (h : ∀ x ∈ xs, p x = false → f x = []) : (xs.filter p).flatMap f = xs.flatMap f := by
  induction xs with
  | nil => rfl
  | cons x xs ih =>
      have hxs := ih fun y hy => h y (List.mem_cons_of_mem x hy)
      cases hp : p x with
      | true => rw [List.filter_cons_of_pos hp, List.flatMap_cons, List.flatMap_cons, hxs]
      | false =>
          rw [List.filter_cons_of_neg (by simp [hp]), List.flatMap_cons, hxs,
            h x List.mem_cons_self hp, List.nil_append]

/-- Merging threads that would continue alike keeps the preferred end. -/
theorem keepFirst_spec (prev : Option Char) (pos : Nat) (text : List Char)
    (threads : List Thread) :
    ((keepFirst threads).flatMap (Thread.ways prev pos text)).head? =
      (threads.flatMap (Thread.ways prev pos text)).head? := by
  induction threads with
  | nil => rfl
  | cons t ts ih =>
      rw [keepFirst, List.flatMap_cons, List.flatMap_cons, List.head?_append, List.head?_append]
      cases ht : (t.ways prev pos text).head? with
      | some s => rfl
      | none =>
          -- a thread left out for `t` has as little a way as `t` itself
          have hnil : t.ways prev pos text = [] := List.head?_eq_none_iff.mp ht
          have hdrop : ∀ u ∈ keepFirst ts, decide (u.rest ≠ t.rest) = false →
              u.ways prev pos text = [] := by
            intro u _ hu
            have hrest : u.rest = t.rest := by simpa using hu
            rw [Thread.ways, hrest]
            exact ways_eq_nil_of_marks hnil u.marks
          rw [Option.none_or, Option.none_or, flatMap_filter_of_nil hdrop, ih]

private theorem flatMap_stepWays (pos : Nat) (c : Char) (cs : List Char)
    (steps : List (CharClass × Thread)) :
    steps.flatMap (stepWays pos (c :: cs)) =
      (steps.filterMap fun (cls, t) => if cls.holds c then some t else none).flatMap
        (Thread.ways (some c) (pos + 1) cs) := by
  induction steps with
  | nil => rfl
  | cons step steps ih =>
      by_cases hc : step.1.holds c = true
      · simp [stepWays, hc, ← ih]
      · simp [stepWays, hc, ← ih]

/-! ## Searching -/

/-- Following threads finds the preferred end of their ways. -/
theorem follow_eq (threads : List Thread) (prev : Option Char) (pos : Nat) (text : List Char) :
    follow threads prev pos text =
      ((threads.flatMap (Thread.ways prev pos text)).head?).map Spot.found := by
  induction text generalizing threads prev pos with
  | nil =>
      have hsteps : ∀ steps : List (CharClass × Thread), steps.flatMap (stepWays pos []) = [] :=
        fun steps => List.flatMap_eq_nil_iff.mpr fun _ _ => rfl
      rw [expand_spec, hsteps, follow, List.head?_nil, List.head?_nil, Option.none_or]
      cases (expand prev none pos threads).2 <;> rfl
  | cons c cs ih =>
      rw [expand_spec, follow, flatMap_stepWays, ← keepFirst_spec]
      simp only [ih, List.head?_cons]
      generalize hnext : keepFirst ((expand prev (some c) pos threads).1.filterMap
        fun (cls, t) => if cls.holds c then some t else none) = next
      cases next with
      | nil => cases (expand prev (some c) pos threads).2 <;> rfl
      | cons t ts =>
          cases ((t :: ts).flatMap (Thread.ways (some c) (pos + 1) cs)).head? with
          | none => cases (expand prev (some c) pos threads).2 <;> simp [Spot.found]
          | some s => simp

theorem matchAt_eq (r : Regex) (prev : Option Char) (pos : Nat) (text : List Char) :
    matchAt r prev pos text = ((ways r ⟨prev, pos, [], text⟩).head?).map Spot.found := by
  simp [matchAt, follow_eq, Thread.ways]

/-- The place in front of a text. -/
def Spot.front (text : List Char) : Spot := ⟨none, 0, [], text⟩

/-- What is bound to the start of the text is found there or not at all. -/
theorem search_textStart (r : Regex) (text : List Char) :
    search (cat (look .textStart) r) text = ((ways r (.front text)).head?).map Spot.found := by
  have hlater : ∀ cs prev pos, searchFrom (cat (look .textStart) r) (some prev) pos cs = none := by
    intro cs
    induction cs with
    | nil =>
        intro prev pos
        simp [searchFrom, matchAt_eq, ways_cat, ways_look, Look.holds]
    | cons c cs ih =>
        intro prev pos
        simp [searchFrom, matchAt_eq, ways_cat, ways_look, Look.holds, ih]
  have hfront : matchAt (cat (look .textStart) r) none 0 text =
      ((ways r (.front text)).head?).map Spot.found := by
    simp [matchAt_eq, ways_cat, ways_look, Look.holds, Spot.front]
  cases text with
  | nil => exact hfront
  | cons c cs =>
      rw [search, searchFrom, hfront]
      cases ((ways r (.front (c :: cs))).head?).map Spot.found with
      | none => simp [hlater]
      | some found => rfl

end TopicBridge.Regex
