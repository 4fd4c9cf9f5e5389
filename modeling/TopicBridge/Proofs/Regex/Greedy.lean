import Mathlib.Logic.Relation
import TopicBridge.Proofs.Regex.Preference

/-! # Greedy matching

What the preferred way through an expression is, built up from the preferred ways through its
parts, and what every way through an expression consumes. -/

namespace TopicBridge.Regex

/-! ## The preferred way -/

/-- The preferred way through an expression from one place ends at another one. -/
def Prefers (r : Regex) (s t : Spot) : Prop := (ways r s).head? = some t

theorem prefers_cat {a b : Regex} {s t u : Spot} (ha : Prefers a s t) (hb : Prefers b t u) :
    Prefers (cat a b) s u := by
  obtain ⟨others, hs⟩ := List.head?_eq_some_iff.mp ha
  simp only [Prefers] at hb ⊢
  rw [ways_cat, hs, List.flatMap_cons, List.head?_append, hb, Option.some_or]

theorem prefers_look {condition : Look} {s : Spot}
    (h : condition.holds s.prev s.rest.head? = true) : Prefers (look condition) s s := by
  simp [Prefers, ways_look, h]

theorem prefers_chars {cls : CharClass} {s : Spot} {c : Char} {cs : List Char}
    (hr : s.rest = c :: cs) (hc : cls.holds c = true) : Prefers (chars cls) s (s.along [c]) := by
  simp [Prefers, ways_chars_of_cons cls hr, hc]

theorem prefers_literal {s : Spot} {w rest : List Char} (h : s.rest = w ++ rest) :
    Prefers (literal w) s (s.along w) := by
  induction w generalizing s with
  | nil => simp [literal, seq, Prefers, ways_empty]
  | cons c w ih =>
      have hc : Prefers (chars (.single c)) s (s.along [c]) :=
        prefers_chars h ((CharClass.holds_single c c).mpr rfl)
      have hw : Prefers (literal w) (s.along [c]) ((s.along [c]).along w) := ih (by simp [h])
      rw [← s.along_cons c w] at hw
      simpa [Prefers, literal, ways_seq_cons, ways_cat] using prefers_cat hc hw

theorem prefers_opt {r : Regex} {s t : Spot} (h : Prefers r s t) : Prefers (opt r) s t := by
  simp only [Prefers] at h ⊢
  rw [ways_opt, List.head?_append, h, Option.some_or]

theorem prefers_opt_self {r : Regex} {s : Spot} (h : ways r s = []) : Prefers (opt r) s s := by
  simp [Prefers, ways_opt, h]

theorem prefers_star {r : Regex} (hr : Consumes r) {s t u : Spot} (h : Prefers r s t)
    (hrest : Prefers (star r) t u) : Prefers (star r) s u := by
  have hcat : Prefers (cat r (star r)) s u := prefers_cat h hrest
  simp only [Prefers, ways_cat] at hcat ⊢
  rw [ways_star hr, List.head?_append, hcat, Option.some_or]

theorem prefers_star_self {r : Regex} (hr : Consumes r) {s : Spot} (h : ways r s = []) :
    Prefers (star r) s s := by
  simp [Prefers, ways_star hr, h]

theorem prefers_plus {r : Regex} {s t u : Spot} (h : Prefers r s t)
    (hrest : Prefers (star r) t u) : Prefers (plus r) s u := by
  have hcat : Prefers (cat r (star r)) s u := prefers_cat h hrest
  simpa only [Prefers, ways_plus, ways_cat] using hcat

theorem prefers_group {index : Nat} {r : Regex} {s t : Spot}
    (h : Prefers r (s.pass [2 * index]) t) :
    Prefers (group index r) s (t.pass [2 * index + 1]) := by
  simp only [Prefers] at h ⊢
  rw [ways_group, List.head?_map, h, Option.map_some]

/-- A repetition of a class takes all its characters that come next. -/
theorem prefers_star_chars {cls : CharClass} {s : Spot} {w rest : List Char}
    (h : s.rest = w ++ rest) (hw : ∀ c ∈ w, cls.holds c = true)
    (hrest : ∀ c ∈ rest.head?, cls.holds c = false) :
    Prefers (star (chars cls)) s (s.along w) := by
  induction w generalizing s with
  | nil =>
      rw [Spot.along_nil]
      apply prefers_star_self (consumes_chars cls)
      cases rest with
      | nil => exact ways_chars_of_nil cls h
      | cons c cs => simpa [ways_chars_of_cons cls h] using hrest c rfl
  | cons c w ih =>
      have hc : Prefers (chars cls) s (s.along [c]) := prefers_chars h (hw c (by simp))
      refine prefers_star (consumes_chars cls) hc ?_
      have hmore : (s.along [c]).rest = w ++ rest := by simp [h]
      rw [s.along_cons c w]
      exact ih hmore fun d hd => hw d (by simp [hd])

theorem prefers_plus_chars {cls : CharClass} {s : Spot} {w rest : List Char}
    (h : s.rest = w ++ rest) (hne : w ≠ []) (hw : ∀ c ∈ w, cls.holds c = true)
    (hrest : ∀ c ∈ rest.head?, cls.holds c = false) :
    Prefers (plus (chars cls)) s (s.along w) := by
  obtain ⟨c, w, rfl⟩ := List.exists_cons_of_ne_nil hne
  have hc : Prefers (chars cls) s (s.along [c]) := prefers_chars h (hw c (by simp))
  refine prefers_plus hc ?_
  have hmore : (s.along [c]).rest = w ++ rest := by simp [h]
  rw [s.along_cons c w]
  exact prefers_star_chars hmore (fun d hd => hw d (by simp [hd])) hrest

theorem mem_of_prefers {r : Regex} {s t : Spot} (h : Prefers r s t) : t ∈ ways r s :=
  List.mem_of_head? h

theorem prefers_unique {r : Regex} {s t u : Spot} (ht : Prefers r s t) (hu : Prefers r s u) :
    t = u :=
  Option.some.inj (ht.symm.trans hu)

/-- The preferred way through two expressions goes on from some way through the first. -/
theorem exists_of_prefers_cat {a b : Regex} {s u : Spot} (h : Prefers (cat a b) s u) :
    ∃ t ∈ ways a s, Prefers b t u := by
  rw [Prefers, ways_cat, List.head?_flatMap] at h
  exact List.exists_of_findSome?_eq_some h

/-! ## What is consumed -/

/-- Reading `w` leads from one place to another. -/
structure Spot.Reads (s : Spot) (w : List Char) (t : Spot) : Prop where
  rest : s.rest = w ++ t.rest
  eq_along : t = s.along w

namespace Spot

theorem rest_along {s : Spot} {w rest : List Char} (h : s.rest = w ++ rest) :
    (s.along w).rest = rest := by
  rw [along_rest, h, List.drop_left]

theorem reads_along {s : Spot} {w rest : List Char} (h : s.rest = w ++ rest) :
    s.Reads w (s.along w) :=
  ⟨by rw [rest_along h, h], rfl⟩

theorem reads_nil (s : Spot) : s.Reads [] s := ⟨rfl, s.along_nil.symm⟩

theorem Reads.append {s t u : Spot} {v w : List Char} (hv : s.Reads v t) (hw : t.Reads w u) :
    s.Reads (v ++ w) u := by
  refine ⟨by rw [hv.rest, hw.rest, List.append_assoc], ?_⟩
  rw [hw.eq_along, hv.eq_along, along_append]

theorem Reads.marks {s t : Spot} {w : List Char} (h : s.Reads w t) : t.marks = s.marks := by
  rw [h.eq_along, along_marks]

theorem Reads.pos {s t : Spot} {w : List Char} (h : s.Reads w t) :
    t.pos = s.pos + w.length := by
  rw [h.eq_along, along_pos]

/-- A place stays one in the topic. -/
theorem Reads.drop {s t : Spot} {w topic : List Char} (h : s.Reads w t)
    (hs : topic.drop s.pos = s.rest) : topic.drop t.pos = t.rest := by
  rw [h.pos, ← List.drop_drop, hs, h.rest, List.drop_left]

end Spot

/-- A way leads forward in the text. -/
theorem rest_of_mem_ways {r : Regex} {s t : Spot} (h : t ∈ ways r s) :
    ∃ w, s.rest = w ++ t.rest ∧ (Consumes r → w ≠ []) := by
  induction hn : s.rest.length generalizing r s with
  | zero =>
      have hr : s.rest = [] := List.length_eq_zero_iff.mp hn
      rw [ways_eq, List.mem_flatMap] at h
      obtain ⟨head, hh, ht⟩ := h
      cases head with
      | done ms =>
          simp only [through_done, List.mem_singleton] at ht
          exact ⟨[], by simp [ht], fun hcons => absurd hh (hcons _ _ ms)⟩
      | step ms cls rest => simp [through_step_of_nil hr] at ht
  | succ n ih =>
      obtain ⟨c, cs, hr⟩ := List.exists_cons_of_length_eq_add_one hn
      rw [ways_eq, List.mem_flatMap] at h
      obtain ⟨head, hh, ht⟩ := h
      cases head with
      | done ms =>
          simp only [through_done, List.mem_singleton] at ht
          exact ⟨[], by simp [ht], fun hcons => absurd hh (hcons _ _ ms)⟩
      | step ms cls rest =>
          rw [through_step_of_cons hr] at ht
          by_cases hc : cls.holds c = true
          · rw [if_pos hc] at ht
            obtain ⟨w, hw, -⟩ := ih ht (by simp [hr] at hn ⊢; exact hn)
            refine ⟨c :: w, ?_, by simp⟩
            simp only [Spot.along_rest, Spot.pass_rest, hr, List.length_singleton,
              List.drop_succ_cons, List.drop_zero] at hw
            rw [hr, hw, List.cons_append]
          · simp [hc] at ht

/-- What consumes something has no way at the end of the text. -/
theorem ways_eq_nil_of_consumes {r : Regex} (hr : Consumes r) {s : Spot} (h : s.rest = []) :
    ways r s = [] := by
  apply List.eq_nil_iff_forall_not_mem.mpr
  intro t ht
  obtain ⟨w, hw, hne⟩ := rest_of_mem_ways ht
  rw [h] at hw
  exact hne hr (List.append_eq_nil_iff.mp hw.symm).1

theorem mem_ways_cat {a b : Regex} {s u : Spot} :
    u ∈ ways (cat a b) s ↔ ∃ t ∈ ways a s, u ∈ ways b t := by
  rw [ways_cat, List.mem_flatMap]

theorem reads_of_mem_chars {cls : CharClass} {s t : Spot} (h : t ∈ ways (chars cls) s) :
    ∃ c, cls.holds c = true ∧ s.Reads [c] t := by
  cases hr : s.rest with
  | nil => simp [ways_chars_of_nil cls hr] at h
  | cons c cs =>
      rw [ways_chars_of_cons cls hr] at h
      by_cases hc : cls.holds c = true
      · rw [if_pos hc, List.mem_singleton] at h
        rw [h]
        exact ⟨c, hc, Spot.reads_along hr⟩
      · simp [hc] at h

theorem reads_of_mem_literal {w : List Char} {s t : Spot} (h : t ∈ ways (literal w) s) :
    s.Reads w t := by
  induction w generalizing s with
  | nil =>
      simp only [literal, List.map_nil, seq, ways_empty, List.mem_singleton] at h
      rw [h]
      exact s.reads_nil
  | cons c w ih =>
      rw [literal, List.map_cons, ways_seq_cons, List.mem_flatMap] at h
      obtain ⟨u, hu, ht⟩ := h
      obtain ⟨d, hd, hread⟩ := reads_of_mem_chars hu
      rw [(CharClass.holds_single c d).mp hd] at hread
      exact hread.append (ih ht)

/-- A way through a repetition is made of rounds. -/
theorem rounds_of_mem_star {r : Regex} (hr : Consumes r) {s t : Spot} (h : t ∈ ways (star r) s) :
    Relation.ReflTransGen (fun s t => t ∈ ways r s) s t := by
  induction hn : s.rest.length using Nat.strongRecOn generalizing s with
  | ind n ih =>
      rw [ways_star hr, List.mem_append, List.mem_flatMap, List.mem_singleton] at h
      rcases h with ⟨u, hu, h⟩ | rfl
      · obtain ⟨w, hw, hne⟩ := rest_of_mem_ways hu
        have hlen : u.rest.length < n := by
          have := List.length_pos_iff.mpr (hne hr)
          rw [← hn, hw, List.length_append]
          omega
        exact .head hu (ih _ hlen h rfl)
      · exact .refl

theorem reads_of_mem_star_chars {cls : CharClass} {s t : Spot}
    (h : t ∈ ways (star (chars cls)) s) :
    ∃ w, (∀ c ∈ w, cls.holds c = true) ∧ s.Reads w t := by
  have hrounds := rounds_of_mem_star (consumes_chars cls) h
  clear h
  induction hrounds using Relation.ReflTransGen.head_induction_on with
  | refl => exact ⟨[], by simp, t.reads_nil⟩
  | head hround _ ih =>
      obtain ⟨c, hc, hfirst⟩ := reads_of_mem_chars hround
      obtain ⟨w, hw, hrest⟩ := ih
      refine ⟨c :: w, ?_, hfirst.append hrest⟩
      intro d hd
      rcases List.mem_cons.mp hd with rfl | hd
      · exact hc
      · exact hw d hd

theorem reads_of_mem_plus_chars {cls : CharClass} {s t : Spot}
    (h : t ∈ ways (plus (chars cls)) s) :
    ∃ w, w ≠ [] ∧ (∀ c ∈ w, cls.holds c = true) ∧ s.Reads w t := by
  rw [ways_plus, List.mem_flatMap] at h
  obtain ⟨u, hu, h⟩ := h
  obtain ⟨c, hc, hfirst⟩ := reads_of_mem_chars hu
  obtain ⟨w, hw, hrest⟩ := reads_of_mem_star_chars h
  refine ⟨c :: w, by simp, ?_, hfirst.append hrest⟩
  intro d hd
  rcases List.mem_cons.mp hd with rfl | hd
  · exact hc
  · exact hw d hd

theorem mem_ways_opt {r : Regex} {s t : Spot} : t ∈ ways (opt r) s ↔ t ∈ ways r s ∨ t = s := by
  rw [ways_opt, List.mem_append, List.mem_singleton]

theorem mem_ways_group {index : Nat} {r : Regex} {s t : Spot} :
    t ∈ ways (group index r) s ↔
      ∃ u ∈ ways r (s.pass [2 * index]), u.pass [2 * index + 1] = t := by
  rw [ways_group, List.mem_map]

/-! ## Going back

A repetition gives rounds back until what stands behind it finds a way. The continuation `k` lists
the ways behind. -/

/-- One more round is made if there is a way behind it. -/
theorem head?_flatMap_star {r : Regex} (hr : Consumes r) {s t u : Spot} {k : Spot → List Spot}
    (h : Prefers r s t) (hk : ((ways (star r) t).flatMap k).head? = some u) :
    ((ways (star r) s).flatMap k).head? = some u := by
  obtain ⟨others, hs⟩ := List.head?_eq_some_iff.mp h
  rw [ways_star hr, hs, List.flatMap_cons, List.flatMap_append, List.flatMap_append,
    List.append_assoc, List.head?_append, hk, Option.some_or]

/-- No more rounds are made if there is no way behind any of them. -/
theorem head?_flatMap_star_self {r : Regex} (hr : Consumes r) {s u : Spot}
    {k : Spot → List Spot} (hnone : ∀ t ∈ ways r s, ∀ v ∈ ways (star r) t, k v = [])
    (hk : (k s).head? = some u) : ((ways (star r) s).flatMap k).head? = some u := by
  have hmore : ((ways r s).flatMap (ways (star r))).flatMap k = [] := by
    refine List.flatMap_eq_nil_iff.mpr fun v hv => ?_
    obtain ⟨t, ht, hv⟩ := List.mem_flatMap.mp hv
    exact hnone t ht v hv
  rw [ways_star hr, List.flatMap_append, hmore, List.nil_append, List.flatMap_singleton, hk]

theorem ways_cat_group (index : Nat) (r b : Regex) (s : Spot) :
    ways (cat (group index r) b) s =
      (ways r (s.pass [2 * index])).flatMap fun t => ways b (t.pass [2 * index + 1]) := by
  rw [ways_cat, ways_group, List.flatMap_map]

end TopicBridge.Regex
