import TopicBridge.Proofs.Topic.Captures
import TopicBridge.Proofs.Topic.Matching

/-! # From groups to captures

A match passes the marks of the groups one after the other, and the text of the group of a wildcard
becomes its capture. -/

namespace TopicBridge

/-- Sets the values of a list, one after the other. -/
def Captures.insertAll (c : Captures) (entries : List (String × Capture)) : Captures :=
  entries.foldl (fun c (n, v) => c.insert n v) c

theorem Captures.insertAll_append (c : Captures) (xs ys : List (String × Capture)) :
    c.insertAll (xs ++ ys) = (c.insertAll xs).insertAll ys :=
  List.foldl_append

namespace Pattern

variable {p : Pattern} {topic g : List Char} {found : Regex.Found} {n : Nat} {acc : Captures}

theorem gather_single (hv : p.validators = .empty) (name : String)
    (hg : found.group? topic n = some g) (ts : List Token) :
    gather p topic found n acc (.single name :: ts) =
      gather p topic found (n + 1)
        (acc.insertAll (Token.named name (.single (String.ofList (dropSlash g))))) ts := by
  have hnone : p.validator? name = none := by
    rw [validator?, hv, Table.get?_empty]
  simp only [gather, hg, hnone, Option.getD_some, Token.named]
  split <;> rfl

theorem gather_multi (name : String) (hg : found.group? topic n = some g) (ts : List Token) :
    gather p topic found n acc (.multi name :: ts) =
      gather p topic found (n + 1)
        (acc.insertAll (Token.named name (.multi ((levelsOfGroup g).map String.ofList)))) ts := by
  simp only [gather, hg, Option.getD_some, Token.named]
  split <;> rfl

theorem levelsOfGroup_eq (g : List Char) : levelsOfGroup g = covered (Text.split '/' g) := rfl

theorem levelsOfGroup_join {ls : List Level} (hsep : ∀ l ∈ ls, '/' ∉ l) :
    levelsOfGroup (Text.join '/' ls) = covered ls := by
  by_cases hls : ls = []
  · subst hls
    rfl
  · rw [levelsOfGroup_eq, Text.split_join hls hsep]

theorem dropSlash_closing {l : Level} (hsep : '/' ∉ l) (ls : List Level) :
    dropSlash (l ++ Token.closing ls) = l := by
  by_cases hls : ls = []
  · have hlast : l.getLast? ≠ some '/' := fun h => hsep (List.mem_of_getLast? h)
    simp [dropSlash, Token.closing, hls, hlast]
  · simp [dropSlash, Token.closing, hls]

end Pattern

/-- The text of a group whose marks are the latest of their slots. -/
theorem Regex.Found.group?_eq {found : Found} {topic : List Char} {n start stop : Nat}
    {later earlier : Marks}
    (hmarks : found.marks = later ++ (2 * n + 1, stop) :: (2 * n, start) :: earlier)
    (hlater : ∀ m ∈ later, 2 * (n + 1) ≤ m.1) :
    found.group? topic n = some ((topic.drop start).take (stop - start)) := by
  have hskip : ∀ slot, slot < 2 * (n + 1) → later.find? (·.1 = slot) = none := by
    intro slot hslot
    apply List.find?_eq_none.mpr
    intro m hm
    have := hlater m hm
    simp only [decide_eq_true_eq]
    omega
  have hstart : found.marks.find? (·.1 = 2 * n) = some (2 * n, start) := by
    rw [hmarks, List.find?_append, hskip (2 * n) (by omega)]
    simp
  have hstop : found.marks.find? (·.1 = 2 * n + 1) = some (2 * n + 1, stop) := by
    rw [hmarks, List.find?_append, hskip (2 * n + 1) (by omega)]
    simp
  simp [group?, hstart, hstop]

namespace Token

open Regex

/-! ## Groups of tokens -/

/-- Between two places, groups were passed that become the captures `values` of the tokens. The marks
of a token stay below those of the tokens behind it. -/
structure Gathers (p : Pattern) (topic : List Char) (n : Nat) (ts : List Token)
    (values : List (String × Capture)) (s t : Spot) : Prop where
  marks : ∃ later, t.marks = later ++ s.marks ∧ ∀ m ∈ later, 2 * n ≤ m.1
  gather : ∀ (found : Found) (acc : Captures), found.marks = t.marks →
    p.gather topic found n acc ts = .captured (acc.insertAll values)

section
variable {p : Pattern} {topic : List Char} {ts : List Token} {values : List (String × Capture)}
  {n : Nat} {s t u : Spot} {w : List Char}

theorem gathers_nil : Gathers p topic n [] [] s s where
  marks := ⟨[], rfl, by simp⟩
  gather := fun _ _ _ => rfl

theorem gathers_literal {text : String} (hmarks : u.marks = s.marks)
    (h : Gathers p topic n ts values u t) : Gathers p topic n (literal text :: ts) values s t where
  marks := hmarks ▸ h.marks
  gather := h.gather

/-- Marks of later groups leave the text of a group as it is. -/
theorem Gathers.group (h : Gathers p topic (n + 1) ts values (u.pass [2 * n + 1]) t)
    (hpos : topic.drop s.pos = s.rest) (hread : (s.pass [2 * n]).Reads w u) :
    (∃ later, t.marks = later ++ s.marks ∧ ∀ m ∈ later, 2 * n ≤ m.1) ∧
      ∀ found : Found, found.marks = t.marks → found.group? topic n = some w := by
  obtain ⟨later, hmarks, hslots⟩ := h.marks
  have hall : t.marks = later ++ (2 * n + 1, u.pos) :: (2 * n, s.pos) :: s.marks := by
    rw [hmarks, Spot.pass_marks, hread.marks]
    rfl
  refine ⟨⟨later ++ [(2 * n + 1, u.pos), (2 * n, s.pos)], by simp [hall], ?_⟩, ?_⟩
  · intro m hm
    rcases List.mem_append.mp hm with hm | hm
    · have hslot := hslots m hm
      omega
    · simp only [List.mem_cons, List.not_mem_nil, or_false] at hm
      rcases hm with rfl | rfl <;> simp
  · intro found hfound
    have hrest : s.rest = w ++ u.rest := hread.rest
    rw [Found.group?_eq (hfound.trans hall) hslots, hpos, hrest, hread.pos]
    simp

theorem gathers_single (hv : p.validators = .empty) (name : String) {l : Level}
    (hl : Pattern.dropSlash w = l) (hpos : topic.drop s.pos = s.rest)
    (hread : (s.pass [2 * n]).Reads w u)
    (h : Gathers p topic (n + 1) ts values (u.pass [2 * n + 1]) t) :
    Gathers p topic n (single name :: ts) (named name (.single (String.ofList l)) ++ values) s t := by
  obtain ⟨hmarks, hgroup⟩ := h.group hpos hread
  refine ⟨hmarks, fun found acc hfound => ?_⟩
  rw [Pattern.gather_single hv name (hgroup found hfound), hl, h.gather found _ hfound,
    Captures.insertAll_append]

theorem gathers_multi (name : String) {ls : List Level} (hls : Pattern.levelsOfGroup w = ls)
    (hpos : topic.drop s.pos = s.rest) (hread : (s.pass [2 * n]).Reads w u)
    (h : Gathers p topic (n + 1) ts values (u.pass [2 * n + 1]) t) :
    Gathers p topic n (multi name :: ts)
      (named name (.multi (ls.map String.ofList)) ++ values) s t := by
  obtain ⟨hmarks, hgroup⟩ := h.group hpos hread
  refine ⟨hmarks, fun found acc hfound => ?_⟩
  rw [Pattern.gather_multi name (hgroup found hfound), hls, h.gather found _ hfound,
    Captures.insertAll_append]

end

/-! ## Levels that can be taken -/

/-- A preferred way through the expression of tokens, with groups that become captures. -/
structure Takes (p : Pattern) (topic : List Char) (n : Nat) (ts : List Token)
    (values : List (String × Capture)) (s t : Spot) : Prop
    extends Gathers p topic n ts values s t where
  prefers : Prefers (exprFrom n ts) s t

section
variable {p : Pattern} {topic : List Char} {ts : List Token} {ls : List Level}
  {values : List (String × Capture)} {n : Nat} {s t : Spot}

theorem takes_nil (hs : s.rest = []) : Takes p topic n [] [] s s :=
  ⟨gathers_nil, prefers_look (by simp [Look.holds, hs])⟩

/-- A literal takes its level, and the tokens behind it go on behind the slash. The same holds of a
single wildcard. -/
theorem exists_takes_literal {text : String} (hs : s.rest = Text.join '/' (text.toList :: ls))
    (hpos : topic.drop s.pos = s.rest) (hend : ls = [] → endsAt ts = true)
    (htail : ∀ u : Spot, u.rest = Text.join '/' ls → topic.drop u.pos = u.rest →
      ∃ t, Takes p topic n ts values u t) :
    ∃ t, Takes p topic n (literal text :: ts) values s t := by
  rw [join_cons] at hs
  have hall : s.rest = (text.toList ++ closing ls) ++ Text.join '/' ls := by
    rw [hs, List.append_assoc]
  have hread := Spot.reads_along hall
  obtain ⟨t, ht⟩ := htail _ (Spot.rest_along hall) (hread.drop hpos)
  have htext : Prefers (.literal text.toList) s (s.along text.toList) := prefers_literal hs
  have hpiece : Prefers (expr n (endsAt ts) (literal text)) s
      (s.along (text.toList ++ closing ls)) := by
    rw [Spot.along_append]
    exact prefers_cat htext (prefers_close (by simp [hs]) hend)
  exact ⟨t, gathers_literal hread.marks ht.toGathers, prefers_cat hpiece ht.prefers⟩

theorem exists_takes_single (hv : p.validators = .empty) {name : String} {l : Level} (hl : '/' ∉ l)
    (hplain : PlainLevel l) (hs : s.rest = Text.join '/' (l :: ls))
    (hpos : topic.drop s.pos = s.rest) (hend : ls = [] → endsAt ts = true)
    (htail : ∀ u : Spot, u.rest = Text.join '/' ls → topic.drop u.pos = u.rest →
      ∃ t, Takes p topic (n + 1) ts values u t) :
    ∃ t, Takes p topic n (single name :: ts)
      (named name (.single (String.ofList l)) ++ values) s t := by
  rw [join_cons] at hs
  have hall : (s.pass [2 * n]).rest = (l ++ closing ls) ++ Text.join '/' ls := by
    rw [Spot.pass_rest, hs, List.append_assoc]
  have hread := Spot.reads_along hall
  obtain ⟨t, ht⟩ := htail (((s.pass [2 * n]).along (l ++ closing ls)).pass [2 * n + 1])
    (Spot.rest_along hall) (hread.drop hpos)
  have hpiece : Prefers (expr n (endsAt ts) (single name)) s
      (((s.pass [2 * n]).along (l ++ closing ls)).pass [2 * n + 1]) :=
    prefers_group (prefers_round hplain hl hs hend)
  exact ⟨t, gathers_single hv name (Pattern.dropSlash_closing hl ls) hpos hread ht.toGathers,
    prefers_cat hpiece ht.prefers⟩

/-- A multi wildcard takes all levels that are left. -/
theorem exists_takes_multi {name : String} (hend : endsAt ts = true) (hsep : ∀ l ∈ ls, '/' ∉ l)
    (hplain : ∀ l ∈ covered ls, PlainLevel l) (hs : s.rest = Text.join '/' ls)
    (hpos : topic.drop s.pos = s.rest)
    (htail : ∀ u : Spot, u.rest = [] → topic.drop u.pos = u.rest →
      ∃ t, Takes p topic (n + 1) ts values u t) :
    ∃ t, Takes p topic n (multi name :: ts)
      (named name (.multi ((covered ls).map String.ofList)) ++ values) s t := by
  have hall : (s.pass [2 * n]).rest = Text.join '/' ls ++ [] := by
    rw [Spot.pass_rest, hs, List.append_nil]
  have hread := Spot.reads_along hall
  obtain ⟨t, ht⟩ := htail (((s.pass [2 * n]).along (Text.join '/' ls)).pass [2 * n + 1])
    (Spot.rest_along hall) (hread.drop hpos)
  have hpiece : Prefers (expr n (endsAt ts) (multi name)) s
      (((s.pass [2 * n]).along (Text.join '/' ls)).pass [2 * n + 1]) := by
    rw [hend]
    exact prefers_group (prefers_rounds hsep hplain hs)
  exact ⟨t, gathers_multi name (Pattern.levelsOfGroup_join hsep) hpos hread ht.toGathers,
    prefers_cat hpiece ht.prefers⟩

end

end Token

/-- A preferred way through the expression of a pattern is a match and gives its captures. -/
theorem Pattern.parse_of_takes {p : Pattern} {topic : String} {values : List (String × Capture)}
    {t : Regex.Spot}
    (h : Token.Takes p topic.toList 1 p.tokens values (.front topic.toList) t) :
    p.isMatch topic = true ∧ p.parse topic = .captured (.ofList values) := by
  have hsearch : (Token.matcher p.tokens).search topic.toList = some t.found := by
    rw [Token.matcher, Regex.search_textStart, h.prefers, Option.map_some]
  refine ⟨by simp [isMatch, Regex.isMatch, hsearch], ?_⟩
  simp only [parse, hsearch]
  exact h.gather t.found .empty rfl

theorem Pattern.exists_prefers_of_isMatch {p : Pattern} {topic : String}
    (h : p.isMatch topic = true) :
    ∃ t, Regex.Prefers (Token.exprFrom 1 p.tokens) (.front topic.toList) t := by
  rwa [isMatch, Regex.isMatch, Token.matcher, Regex.search_textStart, Option.isSome_map,
    Option.isSome_iff_exists] at h

end TopicBridge
