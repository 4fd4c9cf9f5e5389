import TopicBridge.Proofs.Topic.Filling

/-! # Parsing undoes rendering

A topic rendered from levels that fill the tokens of a pattern gives these levels back, wherever the
multi wildcard stands. A second multi wildcard could take levels of the first. -/

namespace TopicBridge

namespace Token

open Regex

/-- Whether a token is a multi wildcard. -/
def isMulti : Token → Bool
  | multi _ => true
  | _ => false

/-! ## Counting slashes

The tokens behind an inner multi wildcard need as many slashes as there are between their levels, so
that the wildcard cannot take one of them. -/

theorem count_join {ls : List Level} (hls : ls ≠ []) (hsep : ∀ l ∈ ls, '/' ∉ l) :
    (Text.join '/' ls).count '/' + 1 = ls.length := by
  induction ls with
  | nil => exact absurd rfl hls
  | cons l ls ih =>
      have hl : l.count '/' = 0 := List.count_eq_zero.mpr (hsep l List.mem_cons_self)
      by_cases hnil : ls = []
      · simp [hnil, Text.join, hl]
      · have hmore := ih hnil fun k hk => hsep k (List.mem_cons_of_mem l hk)
        rw [Text.join_cons_of_ne_nil _ _ hnil, List.count_append, hl, List.count_cons_self,
          List.length_cons, hmore, Nat.zero_add]

theorem count_lt_of_reads {s t : Spot} {w : List Char} (h : s.Reads (w ++ ['/']) t) :
    t.rest.count '/' < s.rest.count '/' := by
  rw [h.rest, List.count_append, List.count_append, List.count_singleton_self]
  omega

theorem count_le_of_mem_ways {r : Regex} {s t : Spot} (h : t ∈ ways r s) :
    t.rest.count '/' ≤ s.rest.count '/' := by
  obtain ⟨w, hw, -⟩ := rest_of_mem_ways h
  rw [hw, List.count_append]
  exact Nat.le_add_left _ _

theorem count_lt_of_mem_round {s t : Spot}
    (h : t ∈ ways (cat (plus levelChar) (expr.close false)) s) :
    t.rest.count '/' < s.rest.count '/' := by
  obtain ⟨w, -, -, hread | ⟨hend, -⟩⟩ := reads_of_mem_round h
  · exact count_lt_of_reads hread
  · cases hend

/-- A token that others follow takes a slash away, unless it is a multi wildcard. -/
theorem count_lt_of_mem_piece {token : Token} (htoken : token.isMulti = false) {n : Nat}
    {s t : Spot} (h : t ∈ ways (token.expr n false) s) : t.rest.count '/' < s.rest.count '/' := by
  cases token with
  | literal text =>
      obtain ⟨u, hu, h⟩ := mem_ways_cat.mp h
      rcases reads_of_mem_close h with hclose | ⟨hend, -⟩
      · exact count_lt_of_reads ((reads_of_mem_literal hu).append hclose)
      · cases hend
  | single name =>
      obtain ⟨u, hu, rfl⟩ := mem_ways_group.mp h
      exact @count_lt_of_mem_round (s.pass [2 * n]) u hu
  | multi name => cases htoken

theorem not_endsAt {ts : List Token} (hts : ts ≠ []) (hsingle : ∀ t ∈ ts, t.isMulti = false) :
    endsAt ts = false := by
  apply Bool.eq_false_iff.mpr
  intro hend
  obtain rfl | ⟨name, rfl⟩ := eq_of_endsAt hend
  · exact hts rfl
  · cases hsingle (multi name) List.mem_cons_self

/-- Tokens without a multi wildcard match only what holds a slash between any two of them. -/
theorem length_le_of_mem_ways {ts : List Token} (hsingle : ∀ t ∈ ts, t.isMulti = false) {n : Nat}
    {s t : Spot} (h : t ∈ ways (exprFrom n ts) s) : ts.length ≤ s.rest.count '/' + 1 := by
  induction ts generalizing n s with
  | nil => exact Nat.zero_le _
  | cons token ts ih =>
      by_cases hts : ts = []
      · simp [hts]
      · have hsingle' := fun t ht => hsingle t (List.mem_cons_of_mem token ht)
        obtain ⟨u, hu, h⟩ := mem_ways_cat.mp h
        rw [not_endsAt hts hsingle'] at hu
        have hpiece := count_lt_of_mem_piece (hsingle token List.mem_cons_self) hu
        have hmore := ih hsingle' h
        rw [List.length_cons]
        omega

/-! ## Inner multi wildcards -/

theorem prefers_closed_round {atEnd : Bool} {s : Spot} {l : Level} {rest : List Char}
    (hl : Takeable l) (hs : s.rest = l ++ '/' :: rest) :
    Prefers (cat (plus levelChar) (expr.close atEnd)) s (s.along (l ++ ['/'])) := by
  have hne : Text.split '/' rest ≠ [] := Text.split_ne_nil '/' rest
  rw [← closing_of_ne_nil hne]
  refine prefers_round hl.1 hl.2 ?_ fun h => absurd h hne
  rw [closing_of_ne_nil hne, Text.join_split, hs]
  rfl

/-- Rounds are made for the given levels and no others, if there is no way `k` behind more rounds. -/
theorem head?_rounds {k : Spot → List Spot} {rest : List Char} {t : Spot}
    (hstop : ∀ v : Spot, v.rest.count '/' < rest.count '/' → k v = []) {ls : List Level}
    (hls : ∀ l ∈ ls, Takeable l) {s : Spot} (hs : s.rest = closed ls ++ rest)
    (hk : (k (s.along (closed ls))).head? = some t) :
    ((ways (star (cat (plus levelChar) (expr.close false))) s).flatMap k).head? = some t := by
  induction ls generalizing s with
  | nil =>
      -- one more round would take a slash of the rest
      rw [closed_nil, Spot.along_nil] at hk
      refine head?_flatMap_star_self (consumes_round false) (fun u hu v hv => hstop v ?_) hk
      calc v.rest.count '/' ≤ u.rest.count '/' := count_le_of_mem_ways hv
        _ < s.rest.count '/' := count_lt_of_mem_round hu
        _ = rest.count '/' := by rw [hs, closed_nil, List.nil_append]
  | cons l ls ih =>
      have hround : s.rest = l ++ '/' :: (closed ls ++ rest) := by simp [hs]
      have hmore : (s.along (l ++ ['/'])).rest = closed ls ++ rest :=
        Spot.rest_along (by simp [hs])
      refine head?_flatMap_star (consumes_round false)
        (prefers_closed_round (hls l List.mem_cons_self) hround)
        (ih (fun j hj => hls j (List.mem_cons_of_mem l hj)) hmore ?_)
      rwa [← Spot.along_append, List.append_assoc, List.singleton_append, ← closed_cons]

/-- A multi wildcard in front of other tokens takes the levels that these do not need. -/
theorem exists_takes_inner_multi {p : Pattern} {topic : List Char} {ts : List Token}
    {ls : List Level} {values : List (String × Capture)} {name : String} {n : Nat} {s : Spot}
    {rest : List Char} (hend : endsAt ts = false)
    (hstop : ∀ v : Spot, v.rest.count '/' < rest.count '/' → ways (exprFrom (n + 1) ts) v = [])
    (hls : ∀ l ∈ ls, Takeable l) (hs : s.rest = closed ls ++ rest)
    (hpos : topic.drop s.pos = s.rest)
    (htail : ∀ u : Spot, u.rest = rest → topic.drop u.pos = u.rest →
      ∃ t, Takes p topic (n + 1) ts values u t) :
    ∃ t, Takes p topic n (multi name :: ts)
      (named name (.multi (ls.map String.ofList)) ++ values) s t := by
  have hsep : ∀ l ∈ ls, '/' ∉ l := fun l hl => (hls l hl).2
  have hread : (s.pass [2 * n]).Reads (closed ls) ((s.pass [2 * n]).along (closed ls)) :=
    Spot.reads_along hs
  obtain ⟨t, ht⟩ := htail (((s.pass [2 * n]).along (closed ls)).pass [2 * n + 1])
    (Spot.rest_along hs) (hread.drop hpos)
  refine ⟨t, gathers_multi name (Pattern.levelsOfGroup_closed hsep) hpos hread ht.toGathers, ?_⟩
  rw [exprFrom, hend]
  exact (congrArg List.head? (ways_cat_group n _ _ s)).trans
    (head?_rounds (fun v hv => hstop (v.pass [2 * n + 1]) hv) hls hs ht.prefers)

/-! ## Levels that fill tokens -/

theorem Fills.sep_not_mem {t : Token} {part : List Level} (h : t.Fills part) (hw : t.Written) :
    ∀ l ∈ part, '/' ∉ l := by
  intro l hl
  cases h with
  | literal text =>
      rw [List.mem_singleton.mp hl]
      exact hw.1
  | single htake =>
      rw [List.mem_singleton.mp hl]
      exact htake.2
  | multi htake => exact (htake l hl).2

theorem sep_not_mem_flatten {ts : List Token} {parts : List (List Level)}
    (h : List.Forall₂ Fills ts parts) (hw : ∀ t ∈ ts, t.Written) :
    ∀ l ∈ parts.flatten, '/' ∉ l := by
  induction h with
  | nil => simp
  | @cons t part ts parts hfill _ ih =>
      intro l hl
      rcases List.mem_append.mp hl with hl | hl
      · exact hfill.sep_not_mem (hw t List.mem_cons_self) l hl
      · exact ih (fun u hu => hw u (List.mem_cons_of_mem t hu)) l hl

theorem length_flatten {ts : List Token} {parts : List (List Level)}
    (h : List.Forall₂ Fills ts parts) (hsingle : ∀ t ∈ ts, t.isMulti = false) :
    parts.flatten.length = ts.length := by
  induction h with
  | nil => rfl
  | @cons t part ts parts hfill _ ih =>
      have hone : part.length = 1 := by
        cases hfill with
        | literal text => rfl
        | single _ => rfl
        | multi _ => cases hsingle _ List.mem_cons_self
      rw [List.flatten_cons, List.length_append, hone,
        ih fun u hu => hsingle u (List.mem_cons_of_mem t hu), List.length_cons, Nat.add_comm]

theorem not_isMulti_of_countP {name : String} {ts : List Token}
    (h : (multi name :: ts).countP isMulti ≤ 1) : ∀ t ∈ ts, t.isMulti = false := by
  have hzero : ts.countP isMulti = 0 := by
    rw [List.countP_cons_of_pos rfl] at h
    omega
  simpa using List.countP_eq_zero.mp hzero

theorem countP_tail {t : Token} {ts : List Token} (h : (t :: ts).countP isMulti ≤ 1) :
    ts.countP isMulti ≤ 1 := by
  rw [List.countP_cons] at h
  omega

theorem endsAt_of_flatten {ts : List Token} {parts : List (List Level)}
    (h : List.Forall₂ Fills ts parts) (hone : ts.countP isMulti ≤ 1) (hnil : parts.flatten = []) :
    endsAt ts = true := by
  cases h with
  | nil => rfl
  | @cons t part ts parts hfill htail =>
      rw [List.flatten_cons, List.append_eq_nil_iff] at hnil
      cases hfill with
      | literal text => cases hnil.1
      | single _ => cases hnil.1
      | multi _ =>
          have hlen := length_flatten htail (not_isMulti_of_countP hone)
          rw [hnil.2, List.length_nil] at hlen
          rw [List.length_eq_zero_iff.mp hlen.symm]
          rfl

/-- The preferred way through the expression of tokens takes the levels that fill them. -/
theorem exists_takes_of_fills {p : Pattern} (hv : p.validators = .empty) {topic : List Char}
    {ts : List Token} {parts : List (List Level)} (h : List.Forall₂ Fills ts parts)
    (hw : ∀ t ∈ ts, t.Written) (hone : ts.countP isMulti ≤ 1) {n : Nat} {s : Spot}
    (hs : s.rest = Text.join '/' parts.flatten) (hpos : topic.drop s.pos = s.rest) :
    ∃ t, Takes p topic n ts (valuesOf (ts.zip parts)) s t := by
  induction h generalizing n s with
  | nil => exact ⟨s, takes_nil hs⟩
  | @cons token ls ts parts hfill htail ih =>
      have hw' := fun u hu => hw u (List.mem_cons_of_mem token hu)
      have ih := @ih hw' (countP_tail hone)
      have hend : parts.flatten = [] → endsAt ts = true :=
        endsAt_of_flatten htail (countP_tail hone)
      rw [List.zip_cons_cons]
      cases hfill with
      | literal text =>
          rw [valuesOf_literal]
          exact exists_takes_literal hs hpos hend fun _ => ih
      | single hl =>
          rw [valuesOf_single]
          exact exists_takes_single hv hl.2 hl.1 hs hpos hend fun _ => ih
      | multi hls =>
          have hsingle := not_isMulti_of_countP hone
          rw [valuesOf_multi]
          by_cases hts : ts = []
          · subst hts
            cases htail
            have hs : s.rest = Text.join '/' ls := by simpa using hs
            have hplain : ∀ l ∈ covered ls, PlainLevel l := fun l hl =>
              (hls l (mem_of_mem_covered hl)).1
            rw [← congrArg (List.map String.ofList) (covered_of_takeable hls)]
            exact exists_takes_multi rfl (fun l hl => (hls l hl).2) hplain hs hpos fun _ => ih
          · -- none of the levels behind the wildcard can be missed
            have hlen := length_flatten htail hsingle
            have hmore : parts.flatten ≠ [] := by
              rw [← List.length_pos_iff, hlen]
              exact List.length_pos_iff.mpr hts
            have hstop : ∀ v : Spot, v.rest.count '/' < (Text.join '/' parts.flatten).count '/' →
                ways (exprFrom (n + 1) ts) v = [] := by
              intro v hv
              apply List.eq_nil_iff_forall_not_mem.mpr
              intro t ht
              have hslashes := length_le_of_mem_ways hsingle ht
              have hcount := count_join hmore (sep_not_mem_flatten htail hw')
              omega
            rw [List.flatten_cons, join_append hmore] at hs
            exact exists_takes_inner_multi (not_endsAt hts hsingle) hstop hls hs hpos fun _ => ih

end Token

/-! ## Rendered topics -/

/-- The topic of levels that stand for tokens one after the other. -/
def rendered (parts : List (List Level)) : String := String.ofList (Text.join '/' parts.flatten)

/-- Where the named wildcards of a pattern have different names and at most one wildcard is a multi
wildcard, a rendered topic matches and its captures are the levels that it was rendered from. -/
theorem Pattern.parse_rendered {source : String} {p : Pattern} (hp : compile source = .ok p)
    (hone : p.tokens.countP Token.isMulti ≤ 1) (hnames : p.names.Nodup)
    {parts : List (List Level)} (hparts : List.Forall₂ Token.Fills p.tokens parts) :
    p.isMatch (rendered parts) = true ∧
      p.parse (rendered parts) = .captured ⟨Token.valuesOf (p.tokens.zip parts)⟩ := by
  have hv : p.validators = .empty := by rw [eq_of_compile hp]
  have hrest : (Regex.Spot.front (rendered parts).toList).rest = Text.join '/' parts.flatten :=
    String.toList_ofList
  obtain ⟨t, ht⟩ := Token.exists_takes_of_fills hv hparts (written_of_compile hp) hone hrest
    List.drop_zero
  exact parse_of_fills hparts hnames ht

theorem Pattern.parse_rendered_inner :
    ∃ p, compile "a/#x/+y" = .ok p ∧ p.tokens.countP Token.isMulti ≤ 1 ∧ p.names.Nodup ∧
      List.Forall₂ Token.Fills p.tokens [[['a']], [['b'], ['c']], [['d']]] ∧
      rendered [[['a']], [['b'], ['c']], [['d']]] = "a/b/c/d" ∧
      p.isMatch "a/b/c/d" = true ∧
      p.parse "a/b/c/d" = .captured ⟨[("x", .multi ["b", "c"]), ("y", .single "d")]⟩ := by
  have hfills : List.Forall₂ Token.Fills [.literal "a", .multi "x", .single "y"]
      [[['a']], [['b'], ['c']], [['d']]] :=
    .cons (.literal "a") (.cons (.multi (by decide)) (.cons (.single (by decide)) .nil))
  have hparse := @parse_rendered "a/#x/+y"
    ⟨"a/#x/+y", [.literal "a", .multi "x", .single "y"], .empty⟩ rfl (by decide) (by decide)
    _ hfills
  exact ⟨_, rfl, by decide, by decide, hfills, rfl, hparse.1, hparse.2⟩

end TopicBridge
