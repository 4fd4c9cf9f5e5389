import TopicBridge.Proofs.Topic.Gathering

/-! # Filters and expressions agree

A topic that the filter of a pattern selects matches the pattern just when its wildcards face levels
that they can take, and the captures are then the levels that they face. -/

namespace TopicBridge

namespace Token

open Regex

theorem Faces.endsAt {ts : List Token} (h : Faces ts []) : endsAt ts = true := by
  cases h <;> rfl

/-- The preferred way through the expression of the tokens takes the levels that they face. -/
theorem exists_takes {p : Pattern} (hv : p.validators = .empty) {topic : List Char}
    {ts : List Token} {ls : List Level} (hf : Faces ts ls) (hfit : Fits ts ls)
    (hsep : ∀ l ∈ ls, '/' ∉ l) {n : Nat} {s : Spot} (hs : s.rest = Text.join '/' ls)
    (hpos : topic.drop s.pos = s.rest) : ∃ t, Takes p topic n ts (values ts ls) s t := by
  induction hf generalizing n s with
  | nil => exact ⟨s, takes_nil hs⟩
  | multi name ls =>
      have hplain := hfit (multi name, covered ls) (by simp [lineUp]) rfl
      rw [values_multi, ← List.append_nil (named _ _)]
      exact exists_takes_multi rfl hsep hplain hs hpos fun u hu _ => ⟨u, takes_nil hu⟩
  | @literal text ts ls hf ih =>
      have htail := @ih (fun x hx => hfit x (List.mem_cons_of_mem _ hx))
        (fun k hk => hsep k (List.mem_cons_of_mem _ hk)) n
      exact exists_takes_literal hs hpos (fun h => (h ▸ hf).endsAt) fun _ => htail
  | @single name l ts ls hf ih =>
      have hl : '/' ∉ l := hsep l List.mem_cons_self
      have hplain : PlainLevel l := hfit (single name, [l]) (by simp [lineUp]) rfl l (by simp)
      have htail := @ih (fun x hx => hfit x (List.mem_cons_of_mem _ hx))
        (fun k hk => hsep k (List.mem_cons_of_mem _ hk)) (n + 1)
      rw [values_single]
      exact exists_takes_single hv hl hplain hs hpos (fun h => (h ▸ hf).endsAt) fun _ => htail

/-! ## Levels that cannot be taken -/

theorem eq_of_append_sep {w v a b : List Char} (hw : '/' ∉ w) (hv : '/' ∉ v)
    (h : w ++ '/' :: a = v ++ '/' :: b) : w = v ∧ a = b := by
  have hsplit := congrArg (Text.split '/') h
  rw [Text.split_append_of_not_mem hw, Text.split_append_of_not_mem hv] at hsplit
  have hwv : w = v := (List.cons.inj hsplit).1
  rw [hwv] at h
  exact ⟨hwv, (List.cons.inj (List.append_cancel_left h)).2⟩

theorem rest_of_mem_textEnd {n : Nat} {s t : Spot} (h : t ∈ ways (exprFrom n []) s) :
    s.rest = [] := by
  rw [exprFrom, ways_look] at h
  cases hr : s.rest with
  | nil => rfl
  | cons c cs => simp [hr, Look.holds] at h

/-- The tokens that may follow without a slash consume a run. -/
theorem run_of_endsAt {ts : List Token} (hend : endsAt ts = true) {n : Nat} {s t : Spot}
    (h : t ∈ ways (exprFrom n ts) s) : Run s.rest := by
  obtain rfl | ⟨name, rfl⟩ := eq_of_endsAt hend
  · rw [rest_of_mem_textEnd h]
    exact .nil
  · obtain ⟨u, hu, h⟩ := mem_ways_cat.mp h
    obtain ⟨v, hv, rfl⟩ := mem_ways_group.mp hu
    obtain ⟨w, hrun, hread⟩ := reads_of_mem_rounds hv
    have hr := hread.rest
    have hrest : (v.pass [2 * n + 1]).rest = [] := rest_of_mem_textEnd h
    rw [Spot.pass_rest] at hrest
    rw [hrest, List.append_nil, Spot.pass_rest] at hr
    exact hr ▸ hrun

theorem plain_of_run {ls : List Level} (hsep : ∀ l ∈ ls, '/' ∉ l) (h : Run (Text.join '/' ls)) :
    ∀ l ∈ covered ls, PlainLevel l := by
  by_cases hls : ls = []
  · simp [hls]
  · have hplain := h.plain
    rwa [Text.split_join hls hsep] at hplain

theorem fits_literal {text : String} {l : Level} {ts : List Token} {ls : List Level}
    (h : Fits ts ls) : Fits (literal text :: ts) (l :: ls) := by
  intro x hx
  rcases List.mem_cons.mp hx with rfl | hx
  · intro hwild
    cases hwild
  · exact h x hx

theorem fits_single {name : String} {l : Level} {ts : List Token} {ls : List Level}
    (hl : PlainLevel l) (h : Fits ts ls) : Fits (single name :: ts) (l :: ls) := by
  intro x hx
  rcases List.mem_cons.mp hx with rfl | hx
  · intro _ k hk
    rw [List.mem_singleton.mp hk]
    exact hl
  · exact h x hx

theorem fits_of_endsAt {ts : List Token} (hend : endsAt ts = true) {ls : List Level}
    (h : ∀ l ∈ covered ls, PlainLevel l) : Fits ts ls := by
  obtain rfl | ⟨name, rfl⟩ := eq_of_endsAt hend
  · simp [Fits, lineUp]
  · intro x hx _
    rw [List.mem_singleton.mp hx]
    exact h

/-- A way through the expression of a literal goes on behind its level. -/
theorem exists_of_mem_literal {text : String} {ts : List Token} {ls : List Level} {n : Nat}
    {s t : Spot} (hs : s.rest = Text.join '/' (text.toList :: ls))
    (ht : t ∈ ways (exprFrom n (literal text :: ts)) s) :
    ∃ u, Spot.rest u = Text.join '/' ls ∧ t ∈ ways (exprFrom n ts) u := by
  obtain ⟨u, hu, ht⟩ := mem_ways_cat.mp ht
  obtain ⟨v, hv, hu⟩ := mem_ways_cat.mp hu
  have hclose : v.rest = closing ls ++ Text.join '/' ls := by
    have hr := (reads_of_mem_literal hv).rest
    rw [hs, join_cons] at hr
    exact (List.append_cancel_left hr).symm
  by_cases hls : ls = []
  · subst hls
    rcases reads_of_mem_close hu with hc | ⟨-, rfl⟩
    · rw [hc.rest] at hclose
      cases hclose
    · exact ⟨u, hclose, ht⟩
  · rw [closing_of_ne_nil hls] at hclose
    rcases reads_of_mem_close hu with hc | ⟨hend, rfl⟩
    · rw [hc.rest] at hclose
      exact ⟨u, (List.cons.inj hclose).2, ht⟩
    · -- nothing that may follow without a slash starts with one
      have hrun : Run u.rest := run_of_endsAt hend ht
      rw [hclose] at hrun
      exact hrun.not_sep_first.elim

/-- A way through the expression of a wildcard goes on behind its level, or the wildcard and the one
behind it take the rest of the topic together. -/
theorem exists_of_mem_single {name : String} {l : Level} {ts : List Token} {ls : List Level}
    {n : Nat} {s t : Spot} (hsep : ∀ k ∈ l :: ls, '/' ∉ k)
    (hs : s.rest = Text.join '/' (l :: ls)) (ht : t ∈ ways (exprFrom n (single name :: ts)) s) :
    PlainLevel l ∧
      ((∃ u, Spot.rest u = Text.join '/' ls ∧ t ∈ ways (exprFrom (n + 1) ts) u) ∨
        endsAt ts = true ∧ ∀ k ∈ covered ls, PlainLevel k) := by
  have hl : '/' ∉ l := hsep l List.mem_cons_self
  obtain ⟨u, hu, ht⟩ := mem_ways_cat.mp ht
  obtain ⟨v, hv, rfl⟩ := mem_ways_group.mp hu
  obtain ⟨w, hne, hw, hread | ⟨hend, hread⟩⟩ := reads_of_mem_round hv
  · have hr := hread.rest
    rw [Spot.pass_rest, hs, join_cons, List.append_assoc] at hr
    by_cases hls : ls = []
    · subst hls
      have hmem : '/' ∈ l := by
        have hr : l = w ++ '/' :: v.rest := by simpa [Text.join] using hr
        simp [hr]
      exact absurd hmem hl
    · rw [closing_of_ne_nil hls] at hr
      obtain ⟨rfl, hrest⟩ := eq_of_append_sep hl (sep_not_mem_of_taken hw) hr
      exact ⟨plain_of_taken hne hw, .inl ⟨v.pass [2 * n + 1], hrest.symm, ht⟩⟩
  · have hr := hread.rest
    have hmore : Run (v.pass [2 * n + 1]).rest := run_of_endsAt hend ht
    have hrun : Run s.rest := by
      rw [← s.pass_rest, hr]
      exact .glued hne hw hmore
    rw [hs] at hrun
    have hplain := plain_of_run hsep hrun
    have hnot : ¬ (l = [] ∧ ls = []) := by
      rintro ⟨rfl, rfl⟩
      rw [Spot.pass_rest, hs] at hr
      exact hne (List.append_eq_nil_iff.mp hr.symm).1
    rw [covered_cons_of_not_empty hnot] at hplain
    exact ⟨hplain l List.mem_cons_self,
      .inr ⟨hend, fun k hk => hplain k (List.mem_cons_of_mem l hk)⟩⟩

/-- Where there is a way through the expression of the tokens, every wildcard faces levels that it
can take. -/
theorem fits_of_mem_ways {ts : List Token} {ls : List Level} (hf : Faces ts ls)
    (hsep : ∀ l ∈ ls, '/' ∉ l) {n : Nat} {s t : Spot} (hs : s.rest = Text.join '/' ls)
    (ht : t ∈ ways (exprFrom n ts) s) : Fits ts ls := by
  induction hf generalizing n s with
  | nil => simp [Fits, lineUp]
  | multi name ls =>
      have hrun : Run s.rest := run_of_endsAt rfl ht
      rw [hs] at hrun
      exact fits_of_endsAt rfl (plain_of_run hsep hrun)
  | @literal text ts ls hf ih =>
      obtain ⟨u, hu, ht⟩ := exists_of_mem_literal hs ht
      exact fits_literal (ih (fun k hk => hsep k (List.mem_cons_of_mem _ hk)) hu ht)
  | @single name l ts ls hf ih =>
      obtain ⟨hl, ⟨u, hu, ht⟩ | ⟨hend, hplain⟩⟩ := exists_of_mem_single hsep hs ht
      · exact fits_single hl (ih (fun k hk => hsep k (List.mem_cons_of_mem l hk)) hu ht)
      · exact fits_single hl (fits_of_endsAt hend hplain)

end Token

/-! ## The agreement -/

/-- Where a filter selects a topic, the topic matches the pattern if and only if its wildcards face
levels that they can take, and then the captures are what they face. -/
theorem Pattern.parse_of_selects {source topic : String} {p : Pattern}
    (hp : compile source = .ok p) (hs : Filter.selects p.normalized topic = true) :
    (Token.Fits p.tokens (levels topic) →
      p.isMatch topic = true ∧ ∃ c, p.parse topic = .captured c ∧
        c.Collects (Token.values p.tokens (levels topic))) ∧
    (¬ Token.Fits p.tokens (levels topic) →
      p.isMatch topic = false ∧ p.parse topic = .captured .empty) := by
  have hf := faces_of_selects hp hs
  have hsep : ∀ l ∈ levels topic, '/' ∉ l := fun l hl => Text.not_mem_of_mem_split hl
  have hv : p.validators = .empty := by rw [eq_of_compile hp]
  have hrest : (Regex.Spot.front topic.toList).rest = Text.join '/' (levels topic) :=
    (Text.join_split '/' topic.toList).symm
  refine ⟨?_, ?_⟩
  · intro hfit
    obtain ⟨t, ht⟩ := Token.exists_takes hv hf hfit hsep (n := 1) hrest List.drop_zero
    have hsearch : (Token.matcher p.tokens).search topic.toList = some t.found := by
      rw [Token.matcher, Regex.search_textStart, ht.prefers, Option.map_some]
    refine ⟨by simp [isMatch, Regex.isMatch, hsearch], _, ?_, Captures.collects_ofList _⟩
    simp only [parse, hsearch]
    exact ht.gather t.found .empty rfl
  · intro hfit
    have hnone : (Token.matcher p.tokens).search topic.toList = none := by
      have hways : Regex.ways (Token.exprFrom 1 p.tokens) (.front topic.toList) = [] := by
        apply List.eq_nil_iff_forall_not_mem.mpr
        intro t ht
        exact hfit (Token.fits_of_mem_ways hf hsep hrest ht)
      rw [Token.matcher, Regex.search_textStart, hways]
      rfl
    exact ⟨by simp [isMatch, Regex.isMatch, hnone], by simp [parse, hnone]⟩

theorem Pattern.parse_of_selects_sensor :
    ∃ p, compile "a/+b/#c" = .ok p ∧ Filter.selects p.normalized "a/x/y/z/" = true ∧
      Filter.selects p.normalized "a/x//z" = true ∧
      (p.isMatch "a/x/y/z/" = true ∧ ∃ c, p.parse "a/x/y/z/" = .captured c ∧
        c.Collects [("b", .single "x"), ("c", .multi ["y", "z"])]) ∧
      (p.isMatch "a/x//z" = false ∧ p.parse "a/x//z" = .captured .empty) := by
  refine ⟨⟨"a/+b/#c", [.literal "a", .single "b", .multi "c"], .empty⟩, rfl, rfl, rfl, ?_, ?_⟩
  · exact (@parse_of_selects "a/+b/#c" "a/x/y/z/" _ rfl rfl).1 (by decide)
  · exact (@parse_of_selects "a/+b/#c" "a/x//z" _ rfl rfl).2 (by decide)

end TopicBridge
