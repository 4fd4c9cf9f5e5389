import TopicBridge.Proofs.Regex.Greedy
import TopicBridge.Proofs.Topic.LineUp

/-! # Matching level by level

The expression of a pattern, which is matched against a topic as a whole, takes the topic apart
into the levels that the tokens face. -/

namespace TopicBridge.Token

open Regex

/-! ## Levels as text -/

/-- The slash behind a level that others follow. -/
def closing (ls : List Level) : List Char := if ls = [] then [] else ['/']

@[simp] theorem closing_nil : closing [] = [] := rfl

theorem closing_of_ne_nil {ls : List Level} (h : ls ≠ []) : closing ls = ['/'] := if_neg h

theorem join_cons (l : Level) (ls : List Level) :
    Text.join '/' (l :: ls) = l ++ (closing ls ++ Text.join '/' ls) := by
  cases ls with
  | nil => simp [Text.join]
  | cons k ks => simp [closing, Text.join_cons_cons]

/-- The class of the characters that a wildcard takes. -/
def taken : CharClass := .allBut ['/', '#', '+']

theorem holds_taken {c : Char} : taken.holds c = true ↔ c ≠ '/' ∧ c ≠ '#' ∧ c ≠ '+' := by
  simp [taken, CharClass.holds_allBut]

theorem taken_of_plain {l : Level} (h : PlainLevel l) (hsep : '/' ∉ l) :
    ∀ c ∈ l, taken.holds c = true := by
  intro c hc
  refine holds_taken.mpr ⟨?_, ?_, ?_⟩
  · rintro rfl
    exact hsep hc
  · rintro rfl
    exact h.2.2 hc
  · rintro rfl
    exact h.2.1 hc

theorem sep_not_mem_of_taken {w : List Char} (h : ∀ c ∈ w, taken.holds c = true) : '/' ∉ w :=
  fun hmem => (holds_taken.mp (h _ hmem)).1 rfl

theorem plain_of_taken {w : List Char} (hne : w ≠ []) (h : ∀ c ∈ w, taken.holds c = true) :
    PlainLevel w :=
  ⟨hne, fun hmem => (holds_taken.mp (h _ hmem)).2.2 rfl,
    fun hmem => (holds_taken.mp (h _ hmem)).2.1 rfl⟩

/-! ## The preferred way of each token -/

theorem prefers_close {atEnd : Bool} {s : Spot} {ls : List Level}
    (hs : s.rest = closing ls ++ Text.join '/' ls) (hend : ls = [] → atEnd = true) :
    Prefers (expr.close atEnd) s (s.along (closing ls)) := by
  by_cases hls : ls = []
  · subst hls
    have hrest : s.rest = [] := by simpa [Text.join] using hs
    rw [expr.close, if_pos (hend rfl), closing_nil, Spot.along_nil]
    exact prefers_opt_self (ways_chars_of_nil _ hrest)
  · rw [closing_of_ne_nil hls] at hs ⊢
    have hslash : Prefers slash s (s.along ['/']) :=
      prefers_chars hs ((CharClass.holds_single _ _).mpr rfl)
    rw [expr.close]
    split
    · exact prefers_opt hslash
    · exact hslash

/-- One round of a wildcard takes a level and the slash behind it. -/
theorem prefers_round {atEnd : Bool} {s : Spot} {l : Level} {ls : List Level}
    (hl : PlainLevel l) (hsep : '/' ∉ l) (hs : s.rest = l ++ (closing ls ++ Text.join '/' ls))
    (hend : ls = [] → atEnd = true) :
    Prefers (cat (plus levelChar) (expr.close atEnd)) s (s.along (l ++ closing ls)) := by
  have hstop : ∀ c ∈ (closing ls ++ Text.join '/' ls).head?, taken.holds c = false := by
    by_cases hls : ls = []
    · subst hls
      simp [Text.join]
    · rw [closing_of_ne_nil hls]
      rintro c ⟨rfl⟩
      exact Bool.eq_false_iff.mpr fun h => (holds_taken.mp h).1 rfl
  have hlevel : Prefers (plus levelChar) s (s.along l) :=
    prefers_plus_chars hs hl.1 (taken_of_plain hl hsep) hstop
  rw [Spot.along_append]
  exact prefers_cat hlevel (prefers_close (by simp [hs]) hend)

theorem consumes_round (atEnd : Bool) :
    Consumes (cat (plus levelChar) (expr.close atEnd)) :=
  consumes_cat (consumes_plus (consumes_chars taken)) _

/-- The rounds of a final multi wildcard take all levels that are left. -/
theorem prefers_rounds {s : Spot} {ls : List Level} (hsep : ∀ l ∈ ls, '/' ∉ l)
    (hplain : ∀ l ∈ covered ls, PlainLevel l) (hs : s.rest = Text.join '/' ls) :
    Prefers (star (cat (plus levelChar) (expr.close true))) s (s.along (Text.join '/' ls)) := by
  have hstop : ∀ {t : Spot}, t.rest = [] →
      Prefers (star (cat (plus levelChar) (expr.close true))) t t := fun ht =>
    prefers_star_self (consumes_round true) (ways_eq_nil_of_consumes (consumes_round true) ht)
  induction ls generalizing s with
  | nil => exact (Spot.along_nil s).symm ▸ hstop hs
  | cons l ls ih =>
      by_cases hlast : l = [] ∧ ls = []
      · obtain ⟨rfl, rfl⟩ := hlast
        exact (Spot.along_nil s).symm ▸ hstop hs
      · rw [covered_cons_of_not_empty hlast] at hplain
        rw [join_cons] at hs ⊢
        have hround : Prefers (cat (plus levelChar) (expr.close true)) s
            (s.along (l ++ closing ls)) :=
          prefers_round (hplain l (List.mem_cons_self ..)) (hsep l (List.mem_cons_self ..)) hs
            fun _ => rfl
        have hmore : (s.along (l ++ closing ls)).rest = Text.join '/' ls := by
          simp [hs, ← List.append_assoc, - List.length_append]
        rw [← List.append_assoc, Spot.along_append]
        exact prefers_star (consumes_round true) hround
          (ih (fun k hk => hsep k (List.mem_cons_of_mem l hk))
            (fun k hk => hplain k (List.mem_cons_of_mem l hk)) hmore)

/-! ## What each token consumes -/

theorem eq_of_endsAt {ts : List Token} (h : endsAt ts = true) :
    ts = [] ∨ ∃ name, ts = [multi name] := by
  unfold endsAt at h
  split at h
  · exact .inl rfl
  · exact .inr ⟨_, rfl⟩
  · cases h

/-- A text that the rounds of a final multi wildcard consume. -/
inductive Run : List Char → Prop where
  | nil : Run []
  | glued {w rest} : w ≠ [] → (∀ c ∈ w, taken.holds c = true) → Run rest → Run (w ++ rest)
  | closed {w rest} : w ≠ [] → (∀ c ∈ w, taken.holds c = true) → Run rest →
      Run (w ++ '/' :: rest)

theorem Run.not_sep_first {w : List Char} (h : Run ('/' :: w)) : False := by
  generalize hv : '/' :: w = v at h
  cases h with
  | nil => cases hv
  | glued hne hw _ =>
      obtain ⟨c, cs, rfl⟩ := List.exists_cons_of_ne_nil hne
      injection hv with hc
      exact (holds_taken.mp (hw c (by simp))).1 hc.symm
  | closed hne hw _ =>
      obtain ⟨c, cs, rfl⟩ := List.exists_cons_of_ne_nil hne
      injection hv with hc
      exact (holds_taken.mp (hw c (by simp))).1 hc.symm

theorem Run.append {v w : List Char} (hv : Run v) (hw : Run w) : Run (v ++ w) := by
  induction hv with
  | nil => exact hw
  | glued hne htaken _ ih =>
      rw [List.append_assoc]
      exact .glued hne htaken ih
  | closed hne htaken _ ih =>
      rw [List.append_assoc, List.cons_append]
      exact .closed hne htaken ih

/-- The levels of such a text can all be taken. -/
theorem Run.plain {w : List Char} (h : Run w) : ∀ l ∈ covered (Text.split '/' w), PlainLevel l := by
  induction h with
  | nil => simp [Text.split, covered]
  | @glued w rest hne hw _ ih =>
      -- The first level of the rest goes on the level that `w` starts.
      obtain ⟨l, ls, hl⟩ := List.exists_cons_of_ne_nil (Text.split_ne_nil '/' rest)
      rw [Text.split_append_cons (sep_not_mem_of_taken hw) hl]
      rw [hl] at ih
      have hplain : l ≠ [] → PlainLevel l → PlainLevel (w ++ l) := by
        intro _ hp
        have hq := plain_of_taken hne hw
        exact ⟨by simp [hne], by simp [hq.2.1, hp.2.1], by simp [hq.2.2, hp.2.2]⟩
      by_cases hls : ls = []
      · subst hls
        rw [covered_singleton (by simp [hne])]
        intro k hk
        rw [List.mem_singleton] at hk
        rw [hk]
        by_cases hnil : l = []
        · simpa [hnil] using plain_of_taken hne hw
        · exact hplain hnil (ih l (by simp [covered_singleton hnil]))
      · rw [covered_cons hls] at ih ⊢
        intro k hk
        rcases List.mem_cons.mp hk with rfl | hk
        · have hp := ih l (List.mem_cons_self ..)
          exact hplain hp.1 hp
        · exact ih k (List.mem_cons_of_mem l hk)
  | @closed w rest hne hw _ ih =>
      rw [Text.split_append_of_not_mem (sep_not_mem_of_taken hw),
        covered_cons (Text.split_ne_nil '/' rest)]
      intro k hk
      rcases List.mem_cons.mp hk with rfl | hk
      · exact plain_of_taken hne hw
      · exact ih k hk

theorem Run.exists_levels {w : List Char} (h : Run w) :
    ∃ ls, w = Text.join '/' ls ∧ (∀ l ∈ ls, '/' ∉ l) ∧ ∀ l ∈ covered ls, PlainLevel l :=
  ⟨Text.split '/' w, (Text.join_split '/' w).symm, fun _ hl => Text.not_mem_of_mem_split hl, h.plain⟩

theorem reads_of_mem_close {atEnd : Bool} {s t : Spot} (h : t ∈ ways (expr.close atEnd) s) :
    s.Reads ['/'] t ∨ (atEnd = true ∧ t = s) := by
  have hslash : t ∈ ways slash s → s.Reads ['/'] t := by
    intro h
    obtain ⟨c, hc, hread⟩ := reads_of_mem_chars h
    rwa [(CharClass.holds_single _ _).mp hc] at hread
  rw [expr.close] at h
  split at h
  · next hend =>
      rcases mem_ways_opt.mp h with h | h
      · exact .inl (hslash h)
      · exact .inr ⟨hend, h⟩
  · exact .inl (hslash h)

theorem reads_of_mem_round {atEnd : Bool} {s t : Spot}
    (h : t ∈ ways (cat (plus levelChar) (expr.close atEnd)) s) :
    ∃ w, w ≠ [] ∧ (∀ c ∈ w, taken.holds c = true) ∧
      (s.Reads (w ++ ['/']) t ∨ (atEnd = true ∧ s.Reads w t)) := by
  obtain ⟨u, hu, h⟩ := mem_ways_cat.mp h
  obtain ⟨w, hne, hw, hread⟩ := reads_of_mem_plus_chars hu
  refine ⟨w, hne, hw, ?_⟩
  rcases reads_of_mem_close h with hclose | ⟨hend, rfl⟩
  · exact .inl (hread.append hclose)
  · exact .inr ⟨hend, hread⟩

theorem reads_of_mem_rounds {s t : Spot}
    (h : t ∈ ways (star (cat (plus levelChar) (expr.close true))) s) :
    ∃ w, Run w ∧ s.Reads w t := by
  have hrounds := rounds_of_mem_star (consumes_round true) h
  clear h
  induction hrounds using Relation.ReflTransGen.head_induction_on with
  | refl => exact ⟨[], .nil, t.reads_nil⟩
  | head hround _ ih =>
      obtain ⟨v, hv, hrest⟩ := ih
      obtain ⟨w, hne, hw, hread | ⟨-, hread⟩⟩ := reads_of_mem_round hround
      · refine ⟨w ++ '/' :: v, .closed hne hw hv, ?_⟩
        have hall := hread.append hrest
        rwa [List.append_assoc] at hall
      · exact ⟨w ++ v, .glued hne hw hv, hread.append hrest⟩

end TopicBridge.Token
