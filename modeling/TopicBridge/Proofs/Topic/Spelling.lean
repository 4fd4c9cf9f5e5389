import TopicBridge.Proofs.Topic.Agreement
import TopicBridge.Proofs.Topic.Filling

/-! # A match spells out its captures

The captures of a match and the literals of the pattern, level by level, are the topic: no text of
the topic is missing in them and none is added. -/

namespace TopicBridge

/-! ## Spelled out levels -/

/-- Levels with slashes in between, and at most one slash behind them. -/
def SpelledOut (ls : List Level) (text : List Char) : Prop :=
  text = Text.join '/' ls ∨ ls ≠ [] ∧ text = Text.join '/' ls ++ ['/']

theorem SpelledOut.eq_nil {text : List Char} (h : SpelledOut [] text) : text = [] := by
  rcases h with rfl | ⟨hne, -⟩
  · rfl
  · exact absurd rfl hne

theorem spelledOut_closed (ls : List Level) : SpelledOut ls (closed ls) := by
  by_cases hls : ls = []
  · subst hls
    exact .inl rfl
  · refine .inr ⟨hls, ?_⟩
    induction ls with
    | nil => exact absurd rfl hls
    | cons l ls ih =>
        by_cases hnil : ls = []
        · simp [hnil, Text.join]
        · rw [closed_cons, ih hnil, Text.join_cons_of_ne_nil _ _ hnil, List.append_assoc,
            List.cons_append]

theorem SpelledOut.append_closed {ls : List Level} {text : List Char} (h : SpelledOut ls text)
    (ks : List Level) : SpelledOut (ks ++ ls) (closed ks ++ text) := by
  by_cases hls : ls = []
  · subst hls
    rw [h.eq_nil, List.append_nil, List.append_nil]
    exact spelledOut_closed ks
  · rcases h with rfl | ⟨-, rfl⟩
    · exact .inl (join_append hls ks).symm
    · exact .inr ⟨by simp [hls], by rw [join_append hls, List.append_assoc]⟩

theorem spelledOut_covered (ls : List Level) : SpelledOut (covered ls) (Text.join '/' ls) := by
  unfold covered
  split
  · next hlast =>
      obtain ⟨ks, rfl⟩ := List.getLast?_eq_some_iff.mp hlast
      rw [List.dropLast_concat, ← closed_eq_join]
      exact spelledOut_closed ks
  · exact .inl rfl

theorem SpelledOut.glue {l : Level} {ls : List Level} {text : List Char}
    (h : SpelledOut (l :: ls) text) (w : List Char) :
    SpelledOut ((w ++ l) :: ls) (w ++ text) := by
  have hjoin : Text.join '/' ((w ++ l) :: ls) = w ++ Text.join '/' (l :: ls) := by
    rw [Token.join_cons, Token.join_cons, List.append_assoc]
  rcases h with rfl | ⟨-, rfl⟩
  · exact .inl hjoin.symm
  · exact .inr ⟨List.cons_ne_nil _ _, by rw [hjoin, List.append_assoc]⟩

namespace Token

open Regex

/-- Levels that stand for tokens spell out a topic. The slash between a literal and the first level
of a final multi wildcard may be missing. -/
inductive Spells : List Token → List (List Level) → List Char → Prop where
  | apart {ts parts text} : SpelledOut parts.flatten text → Spells ts parts text
  | glued {ts parts literalText name l ls text} :
      SpelledOut (parts.flatten ++ (literalText.toList ++ l) :: ls) text →
      Spells (ts ++ [literal literalText, multi name]) (parts ++ [[literalText.toList], l :: ls])
        text

theorem Spells.cons {ts : List Token} {parts : List (List Level)} {text : List Char}
    (h : Spells ts parts text) (t : Token) (part : List Level) :
    Spells (t :: ts) (part :: parts) (closed part ++ text) := by
  cases h with
  | apart h => exact .apart (h.append_closed part)
  | @glued ts parts _ _ _ _ _ h =>
      refine @Spells.glued (t :: ts) (part :: parts) _ _ _ _ _ ?_
      rw [List.flatten_cons, List.append_assoc]
      exact h.append_closed part

theorem Spells.spelledOut {ts : List Token} {parts : List (List Level)} {text : List Char}
    (h : Spells ts parts text) (hend : endsAt ts = true) : SpelledOut parts.flatten text := by
  cases h with
  | apart h => exact h
  | glued _ =>
      obtain hnil | ⟨name, hone⟩ := eq_of_endsAt hend
      · simp at hnil
      · have hlen := congrArg List.length hone
        simp at hlen

/-- A literal without the slash behind it is the last one, or the first level of a final multi
wildcard goes on behind it. -/
theorem Spells.glue {ts : List Token} {parts : List (List Level)} {rest : List Char}
    (h : Spells ts parts rest) (hfills : List.Forall₂ Fills ts parts) (hend : endsAt ts = true)
    (text : String) :
    Spells (literal text :: ts) ([text.toList] :: parts) (text.toList ++ rest) := by
  have hspelled := h.spelledOut hend
  by_cases hnil : parts.flatten = []
  · rw [hnil] at hspelled
    refine .apart (.inl ?_)
    rw [hspelled.eq_nil, List.flatten_cons, hnil]
    simp [Text.join]
  · obtain rfl | ⟨name, rfl⟩ := eq_of_endsAt hend
    · cases hfills
      exact absurd rfl hnil
    · obtain ⟨ls, rfl⟩ : ∃ ls, parts = [ls] := by
        cases hfills with
        | cons _ htail =>
            cases htail
            exact ⟨_, rfl⟩
      rw [List.flatten_singleton] at hnil hspelled
      obtain ⟨l, ls, rfl⟩ := List.exists_cons_of_ne_nil hnil
      exact @Spells.glued [] [] text name l ls _ (hspelled.glue text.toList)

/-! ## What a way spells out -/

/-- Between two places, levels that fill tokens were read up to the end of the topic and become the
captures of the tokens. -/
structure Spelling (p : Pattern) (topic : List Char) (n : Nat) (ts : List Token)
    (parts : List (List Level)) (s t : Spot) : Prop where
  fills : List.Forall₂ Fills ts parts
  gathers : Gathers p topic n ts (valuesOf (ts.zip parts)) s t
  spells : Spells ts parts s.rest

theorem takeable_of_taken {w : List Char} (hne : w ≠ []) (hw : ∀ c ∈ w, taken.holds c = true) :
    Takeable w :=
  ⟨plain_of_taken hne hw, sep_not_mem_of_taken hw⟩

/-- The rounds of an inner multi wildcard read levels with slashes behind them. -/
theorem reads_of_mem_closed_rounds {s t : Spot}
    (h : t ∈ ways (star (cat (plus levelChar) (expr.close false))) s) :
    ∃ ls, (∀ l ∈ ls, Takeable l) ∧ s.Reads (closed ls) t := by
  have hrounds := rounds_of_mem_star (consumes_round false) h
  clear h
  induction hrounds using Relation.ReflTransGen.head_induction_on with
  | refl => exact ⟨[], by simp, t.reads_nil⟩
  | head hround _ ih =>
      obtain ⟨ls, hls, hrest⟩ := ih
      obtain ⟨w, hne, hw, hread | ⟨hend, -⟩⟩ := reads_of_mem_round hround
      · refine ⟨w :: ls, ?_, ?_⟩
        · intro l hl
          rcases List.mem_cons.mp hl with rfl | hl
          · exact takeable_of_taken hne hw
          · exact hls l hl
        · have hall := hread.append hrest
          rwa [List.append_assoc, List.singleton_append, ← closed_cons] at hall
      · cases hend

section
variable {p : Pattern} {topic : List Char} {ts : List Token} {parts : List (List Level)}
  {n : Nat} {s t u : Spot}

theorem spelling_nil (hs : s.rest = []) : Spelling p topic n [] [] s s where
  fills := .nil
  gathers := gathers_nil
  spells := .apart (.inl hs)

theorem spelling_literal {text : String} (hread : s.Reads (text.toList ++ ['/']) u)
    (h : Spelling p topic n ts parts u t) :
    Spelling p topic n (literal text :: ts) ([text.toList] :: parts) s t where
  fills := .cons (.literal text) h.fills
  gathers := gathers_literal hread.marks h.gathers
  spells := by
    have hspells := h.spells.cons (literal text) [text.toList]
    rwa [closed_cons, closed_nil, ← hread.rest] at hspells

theorem spelling_literal_glued {text : String} (hend : endsAt ts = true)
    (hread : s.Reads text.toList u) (h : Spelling p topic n ts parts u t) :
    Spelling p topic n (literal text :: ts) ([text.toList] :: parts) s t where
  fills := .cons (.literal text) h.fills
  gathers := gathers_literal hread.marks h.gathers
  spells := by
    rw [hread.rest]
    exact h.spells.glue h.fills hend text

theorem spelling_single (hv : p.validators = .empty) {name : String} {l : Level} (hl : Takeable l)
    (hpos : topic.drop s.pos = s.rest) (hread : (s.pass [2 * n]).Reads (l ++ ['/']) u)
    (h : Spelling p topic (n + 1) ts parts (u.pass [2 * n + 1]) t) :
    Spelling p topic n (single name :: ts) ([l] :: parts) s t where
  fills := .cons (.single hl) h.fills
  gathers := by
    have hdrop : Pattern.dropSlash (l ++ ['/']) = l := Pattern.dropSlash_closing hl.2 [[]]
    rw [List.zip_cons_cons, valuesOf_single]
    exact gathers_single hv name hdrop hpos hread h.gathers
  spells := by
    have hspells := h.spells.cons (single name) [l]
    rwa [closed_cons, closed_nil, Spot.pass_rest, ← hread.rest] at hspells

theorem spelling_multi {name : String} {ls : List Level} (hls : ∀ l ∈ ls, Takeable l)
    (hpos : topic.drop s.pos = s.rest) (hread : (s.pass [2 * n]).Reads (closed ls) u)
    (h : Spelling p topic (n + 1) ts parts (u.pass [2 * n + 1]) t) :
    Spelling p topic n (multi name :: ts) (ls :: parts) s t where
  fills := .cons (.multi hls) h.fills
  gathers := by
    rw [List.zip_cons_cons, valuesOf_multi]
    exact gathers_multi name (Pattern.levelsOfGroup_closed fun l hl => (hls l hl).2) hpos hread
      h.gathers
  spells := by
    have hspells := h.spells.cons (multi name) ls
    rwa [Spot.pass_rest, ← hread.rest] at hspells

theorem eq_of_prefers_textEnd (h : Prefers (exprFrom n []) s t) : t = s ∧ s.rest = [] := by
  have hs := rest_of_mem_textEnd (mem_of_prefers h)
  have hstay : Prefers (exprFrom n []) s s := prefers_look (by simp [Look.holds, hs])
  exact ⟨prefers_unique h hstay, hs⟩

theorem spelling_single_last (hv : p.validators = .empty) {name : String} {l : Level}
    (hl : Takeable l) (hpos : topic.drop s.pos = s.rest) (hread : (s.pass [2 * n]).Reads l u)
    (hu : u.rest = []) :
    Spelling p topic n [single name] [[l]] s (u.pass [2 * n + 1]) where
  fills := .cons (.single hl) .nil
  gathers := by
    have hdrop : Pattern.dropSlash l = l := by
      simpa using Pattern.dropSlash_closing hl.2 []
    rw [List.zip_cons_cons, valuesOf_single]
    exact gathers_single hv name hdrop hpos hread gathers_nil
  spells := by
    refine .apart (.inl ?_)
    rw [← s.pass_rest [2 * n], hread.rest, hu, List.append_nil]
    rfl

/-- A single wildcard and a final multi wildcard take the levels that face them. -/
theorem exists_spelling_single (hv : p.validators = .empty) {name last : String}
    (hpos : topic.drop s.pos = s.rest) (h : Prefers (exprFrom n [single name, multi last]) s t) :
    ∃ parts, Spelling p topic n [single name, multi last] parts s t := by
  obtain ⟨l, ls, hsplit⟩ := List.exists_cons_of_ne_nil (Text.split_ne_nil '/' s.rest)
  have hs : s.rest = Text.join '/' (l :: ls) := by rw [← hsplit, Text.join_split]
  have hsep : ∀ k ∈ l :: ls, '/' ∉ k := fun k hk => Text.not_mem_of_mem_split (hsplit ▸ hk)
  have hf : Faces [single name, multi last] (l :: ls) := .single (.multi last ls)
  have hfit := fits_of_mem_ways hf hsep hs (mem_of_prefers h)
  have hl : Takeable l :=
    ⟨hfit (single name, [l]) (by simp [lineUp]) rfl l (by simp), hsep l List.mem_cons_self⟩
  have hls : ∀ k ∈ covered ls, Takeable k := fun k hk =>
    ⟨hfit (multi last, covered ls) (by simp [lineUp]) rfl k hk,
      hsep k (List.mem_cons_of_mem l (mem_of_mem_covered hk))⟩
  obtain ⟨v, ht⟩ := exists_takes hv hf hfit hsep hs hpos
  rw [prefers_unique h ht.prefers]
  refine ⟨[[l], covered ls], .cons (.single hl) (.cons (.multi hls) .nil), ht.toGathers, .apart ?_⟩
  have hspelled := spelledOut_covered (l :: ls)
  rw [covered_cons_of_not_empty fun h => hl.ne_nil h.1, ← hs] at hspelled
  simpa using hspelled

theorem exists_takes_at_end (p : Pattern) (topic : List Char) (hend : endsAt ts = true) (n : Nat) :
    ∃ parts, List.Forall₂ Fills ts parts ∧ parts.flatten = [] ∧
      ∀ u : Spot, u.rest = [] → topic.drop u.pos = u.rest →
        ∃ t, Takes p topic n ts (valuesOf (ts.zip parts)) u t := by
  obtain rfl | ⟨name, rfl⟩ := eq_of_endsAt hend
  · exact ⟨[], .nil, rfl, fun u hu _ => ⟨u, takes_nil hu⟩⟩
  · refine ⟨[[]], .cons (.multi (by simp)) .nil, rfl, fun u hu hpos => ?_⟩
    rw [List.zip_cons_cons, valuesOf_multi]
    exact @exists_takes_multi p topic [] [] [] n u name rfl (by simp) (by simp) hu hpos
      fun v hv _ => ⟨v, takes_nil hv⟩

/-- The first one of final multi wildcards takes all levels that are left. -/
theorem exists_spelling_multi {name : String} (hend : endsAt ts = true)
    (hpos : topic.drop s.pos = s.rest) (h : Prefers (exprFrom n (multi name :: ts)) s t) :
    ∃ parts, Spelling p topic n (multi name :: ts) parts s t := by
  have hrun : Run s.rest := by
    obtain ⟨u, hu, hrest⟩ := exists_of_prefers_cat h
    obtain ⟨v, hv, rfl⟩ := mem_ways_group.mp hu
    rw [hend] at hv
    obtain ⟨w, hw, hread⟩ := reads_of_mem_rounds hv
    have hmore : Run (v.pass [2 * n + 1]).rest := run_of_endsAt hend (mem_of_prefers hrest)
    rw [← s.pass_rest [2 * n], hread.rest]
    exact hw.append hmore
  obtain ⟨ls, hs, hsep, hplain⟩ := hrun.exists_levels
  have hls : ∀ l ∈ covered ls, Takeable l := fun l hl =>
    ⟨hplain l hl, hsep l (mem_of_mem_covered hl)⟩
  obtain ⟨parts, hfills, hflat, htail⟩ := exists_takes_at_end p topic hend (n + 1)
  obtain ⟨v, ht⟩ := @exists_takes_multi p topic ts ls _ n s name hend hsep hplain hs hpos htail
  rw [prefers_unique h ht.prefers]
  refine ⟨covered ls :: parts, .cons (.multi hls) hfills, ?_, .apart ?_⟩
  · rw [List.zip_cons_cons, valuesOf_multi]
    exact ht.toGathers
  · rw [List.flatten_cons, hflat, List.append_nil, hs]
    exact spelledOut_covered ls

/-- What the preferred way through the expression of tokens reads spells out the text. -/
theorem exists_spelling (hv : p.validators = .empty) (hpos : topic.drop s.pos = s.rest)
    (h : Prefers (exprFrom n ts) s t) : ∃ parts, Spelling p topic n ts parts s t := by
  induction ts generalizing n s with
  | nil =>
      obtain ⟨rfl, hs⟩ := eq_of_prefers_textEnd h
      exact ⟨[], spelling_nil hs⟩
  | cons token ts ih =>
      -- the way behind the first token is preferred again, whatever the token itself gave back
      obtain ⟨u, hu, hrest⟩ := exists_of_prefers_cat h
      cases token with
      | literal text =>
          obtain ⟨v, hv', hu⟩ := mem_ways_cat.mp hu
          have htext := reads_of_mem_literal hv'
          rcases reads_of_mem_close hu with hclose | ⟨hend, rfl⟩
          · have hread := htext.append hclose
            obtain ⟨parts, hparts⟩ := ih (hread.drop hpos) hrest
            exact ⟨_, spelling_literal hread hparts⟩
          · obtain ⟨parts, hparts⟩ := ih (htext.drop hpos) hrest
            exact ⟨_, spelling_literal_glued hend htext hparts⟩
      | single name =>
          obtain ⟨v, hv', rfl⟩ := mem_ways_group.mp hu
          obtain ⟨w, hne, hw, hread | ⟨hend, hread⟩⟩ := reads_of_mem_round hv'
          · have hdrop : topic.drop v.pos = v.rest := hread.drop hpos
            obtain ⟨parts, hparts⟩ := @ih (n + 1) (v.pass [2 * n + 1]) hdrop hrest
            exact ⟨_, spelling_single hv (takeable_of_taken hne hw) hpos hread hparts⟩
          · obtain rfl | ⟨last, rfl⟩ := eq_of_endsAt hend
            · obtain ⟨rfl, hend⟩ := eq_of_prefers_textEnd hrest
              exact ⟨_, spelling_single_last hv (takeable_of_taken hne hw) hpos hread hend⟩
            · -- what follows may go on the same level, but the preferred way does not
              exact exists_spelling_single hv hpos h
      | multi name =>
          by_cases hend : endsAt ts = true
          · exact exists_spelling_multi hend hpos h
          · obtain ⟨v, hv', rfl⟩ := mem_ways_group.mp hu
            rw [Bool.eq_false_iff.mpr hend] at hv'
            obtain ⟨ls, hls, hread⟩ := reads_of_mem_closed_rounds hv'
            have hdrop : topic.drop v.pos = v.rest := hread.drop hpos
            obtain ⟨parts, hparts⟩ := @ih (n + 1) (v.pass [2 * n + 1]) hdrop hrest
            exact ⟨_, spelling_multi hls hpos hread hparts⟩

end

end Token

/-! ## Reading captures back -/

/-- The levels that captures hold for a token; those of a literal are its text. -/
def Captures.levelsFor (c : Captures) : Token → List Level
  | .literal text => [text.toList]
  | .single name =>
    match c.get? name with
    | some (.single level) => [level.toList]
    | _ => []
  | .multi name =>
    match c.get? name with
    | some (.multi levels) => levels.map String.toList
    | _ => []

theorem Token.mem_named {name : String}
    (h : (if name.isEmpty then none else some name).isSome = true) (value : Capture) :
    (name, value) ∈ named name value := by
  unfold named
  split at h
  · cases h
  · next hne =>
      rw [if_neg hne]
      exact List.mem_singleton_self _

theorem Captures.map_levelsFor {c : Captures} {ts : List Token} {parts : List (List Level)}
    (h : List.Forall₂ Token.Fills ts parts)
    (hnamed : ∀ t ∈ ts, t.isWildcard = true → t.name?.isSome = true)
    (hget : ∀ entry ∈ Token.valuesOf (ts.zip parts), c.get? entry.1 = some entry.2) :
    ts.map c.levelsFor = parts := by
  induction h with
  | nil => rfl
  | @cons t part ts parts hfill _ ih =>
      have hname := hnamed t List.mem_cons_self
      rw [List.zip_cons_cons] at hget
      rw [List.map_cons]
      have hnamed' := fun u hu => hnamed u (List.mem_cons_of_mem t hu)
      cases hfill with
      | literal text =>
          rw [ih hnamed' hget]
          rfl
      | @single name l _ =>
          rw [Token.valuesOf_single] at hget
          rw [ih hnamed' fun entry hentry => hget entry (List.mem_append_right _ hentry)]
          have hvalue := hget _ (List.mem_append_left _ (Token.mem_named (hname rfl) _))
          simp [levelsFor, hvalue]
      | @multi name ls _ =>
          rw [Token.valuesOf_multi] at hget
          rw [ih hnamed' fun entry hentry => hget entry (List.mem_append_right _ hentry)]
          have hvalue := hget _ (List.mem_append_left _ (Token.mem_named (hname rfl) _))
          simp [levelsFor, hvalue]

/-- Captures that spell out a topic: one for each name, in order, of levels that wildcards take, and
with the literals they are the topic. -/
structure Captures.SpellingSpec (p : Pattern) (topic : String) (c : Captures) : Prop where
  names : c.entries.map (·.1) = p.names
  fills : ∀ t ∈ p.tokens, t.Fills (c.levelsFor t)
  spells : Token.Spells p.tokens (p.tokens.map c.levelsFor) topic.toList

/-- Where the wildcards of a pattern are all named, with different names, the captures of a topic
that matches spell it out. -/
theorem Pattern.parse_of_isMatch {source topic : String} {p : Pattern}
    (hp : compile source = .ok p)
    (hnamed : ∀ t ∈ p.tokens, t.isWildcard = true → t.name?.isSome = true)
    (hnames : p.names.Nodup) (hmatch : p.isMatch topic = true) :
    ∃ c, p.parse topic = .captured c ∧ c.SpellingSpec p topic := by
  have hv : p.validators = .empty := by rw [eq_of_compile hp]
  obtain ⟨t, ht⟩ := exists_prefers_of_isMatch hmatch
  obtain ⟨parts, hfills, hgathers, hspells⟩ :=
    @Token.exists_spelling p topic.toList p.tokens 1 (.front topic.toList) t hv List.drop_zero ht
  have hkeys : (Token.valuesOf (p.tokens.zip parts)).map (·.1) = p.names :=
    Token.map_fst_valuesOf hfills
  have hlevels := Captures.map_levelsFor hfills hnamed fun (_ : String × Capture) hentry =>
    Captures.get?_eq_of_mem (hkeys.symm ▸ hnames) hentry
  refine ⟨⟨Token.valuesOf (p.tokens.zip parts)⟩, (parse_of_fills hfills hnames ⟨hgathers, ht⟩).2,
    hkeys, ?_, ?_⟩
  · rw [← hlevels, List.forall₂_map_right_iff, List.forall₂_same] at hfills
    exact hfills
  · rw [hlevels]
    exact hspells

theorem Pattern.parse_of_isMatch_glued :
    ∃ p, compile "a/#x" = .ok p ∧
      (∀ t ∈ p.tokens, t.isWildcard = true → t.name?.isSome = true) ∧ p.names.Nodup ∧
      p.isMatch "ab/c/" = true ∧ p.parse "ab/c/" = .captured ⟨[("x", .multi ["b", "c"])]⟩ ∧
      Captures.SpellingSpec p "ab/c/" ⟨[("x", .multi ["b", "c"])]⟩ := by
  have hmatch : isMatch ⟨"a/#x", [.literal "a", .multi "x"], .empty⟩ "ab/c/" = true := by
    decide +kernel
  have hread : parse ⟨"a/#x", [.literal "a", .multi "x"], .empty⟩ "ab/c/" =
      .captured ⟨[("x", .multi ["b", "c"])]⟩ := by
    decide +kernel
  obtain ⟨c, hparse, hspec⟩ :=
    @parse_of_isMatch "a/#x" "ab/c/" _ rfl (by decide) (by decide) hmatch
  cases hread.symm.trans hparse
  exact ⟨_, rfl, by decide, by decide, hmatch, hread, hspec⟩

end TopicBridge
