import Mathlib.Data.List.Basic
import TopicBridge.Url.Parser

/-! # A segment behind a path

The path of a text with slashes at its end and the path of the text with `/write` behind it have the
same front: the steps that the text takes are taken before either is added.
-/

namespace TopicBridge.Text

/-- What holds no separator goes into the last piece. -/
theorem exists_split_append {sep : Char} {q : List Char} (hq : sep ∉ q) (p : List Char) :
    ∃ init last, split sep p = init ++ [last] ∧ split sep (p ++ q) = init ++ [last ++ q] := by
  induction p with
  | nil => exact ⟨[], [], rfl, split_of_not_mem hq⟩
  | cons c cs ih =>
      obtain ⟨init, last, hcs, happend⟩ := ih
      by_cases hc : c = sep
      · refine ⟨[] :: init, last, ?_, ?_⟩
        · rw [hc, split_sep_cons, hcs, List.cons_append]
        · rw [hc, List.cons_append, split_sep_cons, happend, List.cons_append]
      · cases init with
        | nil => exact ⟨[], c :: last, by simp [split, hc, hcs], by simp [split, hc, happend]⟩
        | cons piece pieces =>
            exact ⟨(c :: piece) :: pieces, last, by simp [split, hc, hcs],
              by simp [split, hc, happend]⟩

end TopicBridge.Text

namespace TopicBridge.Url

/-! ## Encoded texts -/

theorem encode_append (marks s t : List Char) :
    encode marks (s ++ t) = encode marks s ++ encode marks t :=
  List.flatMap_append

theorem upperHexDigit_ne_slash : ∀ n < 16, upperHexDigit n ≠ '/' := by decide

theorem slash_not_mem_escape (c : Char) : '/' ∉ escape c := by
  intro h
  obtain ⟨b, -, hb⟩ := List.mem_flatMap.mp h
  have hhigh : b.toNat / 16 < 16 := Nat.div_lt_of_lt_mul b.toNat_lt
  have hlow : b.toNat % 16 < 16 := Nat.mod_lt _ (by decide)
  simp only [escapeByte, List.mem_cons, List.not_mem_nil, or_false] at hb
  rcases hb with hb | hb | hb
  · exact absurd hb (by decide)
  · exact upperHexDigit_ne_slash _ hhigh hb.symm
  · exact upperHexDigit_ne_slash _ hlow hb.symm

theorem escape_ne_nil (c : Char) : escape c ≠ [] := by
  have hbytes : String.utf8EncodeChar c ≠ [] := by
    rw [← List.length_pos_iff, String.length_utf8EncodeChar]
    exact Char.utf8Size_pos c
  obtain ⟨b, bs, hbs⟩ := List.exists_cons_of_ne_nil hbytes
  simp [escape, hbs, escapeByte]

theorem slash_not_mem_encode (marks : List Char) {s : List Char} (h : '/' ∉ s) :
    '/' ∉ encode marks s := by
  intro hmem
  obtain ⟨c, hc, hslash⟩ := List.mem_flatMap.mp hmem
  split at hslash
  · exact slash_not_mem_escape c hslash
  · rw [List.mem_singleton] at hslash
    exact h (hslash ▸ hc)

theorem encode_ne_nil (marks : List Char) {s : List Char} (h : s ≠ []) : encode marks s ≠ [] := by
  obtain ⟨c, cs, rfl⟩ := List.exists_cons_of_ne_nil h
  rw [encode, List.flatMap_cons]
  split
  · simp [escape_ne_nil]
  · simp

/-- A text that ends in another character than a slash still does when encoded. -/
theorem getLast?_encode_ne (marks : List Char) {s : List Char} (h : s.getLast? ≠ some '/') :
    (encode marks s).getLast? ≠ some '/' := by
  rcases List.eq_nil_or_concat' s with rfl | ⟨front, c, rfl⟩
  · simp [encode]
  · have hc : '/' ∉ [c] := by
      intro hmem
      rw [List.mem_singleton] at hmem
      exact h (by rw [hmem, List.getLast?_concat])
    have hlast : '/' ∉ encode marks [c] := slash_not_mem_encode marks hc
    have hne : encode marks [c] ≠ [] := encode_ne_nil marks (List.cons_ne_nil _ _)
    rw [encode_append, List.getLast?_append_of_ne_nil _ hne]
    exact fun heq => hlast (List.mem_of_getLast? heq)

/-! ## Segments -/

section Segments

variable (special : Bool)

theorem isSlash_slash : isSlash special '/' = true := rfl

theorem segmentsOf_append_cons {c : Char} (h : isSlash special c = true) (p q : List Char) :
    segmentsOf special (p ++ c :: q) = segmentsOf special p ++ segmentsOf special q := by
  rw [segmentsOf, List.map_append, List.map_cons, h, if_pos rfl, Text.split_append_sep]
  rfl

theorem segmentsOf_append_slash (p q : List Char) :
    segmentsOf special (p ++ '/' :: q) = segmentsOf special p ++ segmentsOf special q :=
  segmentsOf_append_cons special rfl p q

theorem segmentsOf_append_slashes (p : List Char) (k : Nat) :
    segmentsOf special (p ++ List.replicate k '/') =
      segmentsOf special p ++ List.replicate k [] := by
  induction k with
  | zero => simp
  | succ k ih =>
      rw [List.replicate_succ', ← List.append_assoc, segmentsOf_append_slash, ih,
        List.replicate_succ', List.append_assoc]
      rfl

/-- What ends in another character than a slash has a last segment. -/
theorem exists_segmentsOf (cs : List Char) {c : Char} (h : isSlash special c = false) :
    ∃ init last, segmentsOf special (cs ++ [c]) = init ++ [last] ∧ last ≠ [] ∧ '/' ∉ last := by
  have hc : '/' ∉ [c] := by
    intro hmem
    rw [List.mem_singleton] at hmem
    rw [← hmem, isSlash_slash] at h
    exact absurd h (by decide)
  obtain ⟨init, last, -, happend⟩ := Text.exists_split_append hc
    (cs.map fun c => if isSlash special c then '/' else c)
  have hsegments : segmentsOf special (cs ++ [c]) = init ++ [last ++ [c]] := by
    rw [segmentsOf, List.map_append, List.map_singleton, h]
    exact happend
  refine ⟨init, last ++ [c], hsegments, by simp, ?_⟩
  have hmem : last ++ [c] ∈ segmentsOf special (cs ++ [c]) := by simp [hsegments]
  exact Text.not_mem_of_mem_split hmem

end Segments

/-! ## Steps -/

/-- The steps along a path, with a segment behind each. -/
def walk (path : List String) (segments : List (List Char)) : List String :=
  segments.foldl (fun path segment => walkPath path segment false) path

theorem walkAll_append_singleton (path : List String) (segments : List (List Char))
    (last : List Char) :
    walkAll path (segments ++ [last]) = walkPath (walk path segments) last true := by
  induction segments generalizing path with
  | nil => rfl
  | cons segment segments ih =>
      have hrest := ih (walkPath path segment false)
      cases segments <;> exact hrest

theorem walk_append (path : List String) (s t : List (List Char)) :
    walk path (s ++ t) = walk (walk path s) t :=
  List.foldl_append

theorem walkPath_nil (path : List String) (last : Bool) : walkPath path [] last = path ++ [""] := by
  rfl

theorem walk_replicate (path : List String) (k : Nat) :
    walk path (List.replicate k []) = path ++ List.replicate k "" := by
  induction k with
  | zero => simp [walk]
  | succ k ih =>
      rw [List.replicate_succ', walk_append, ih, List.replicate_succ', ← List.append_assoc]
      rfl

/-- A last step is one like any other, but a slash follows a dot. -/
theorem walkPath_last (path : List String) {segment : List Char} (hne : segment ≠ [])
    (hslash : '/' ∉ segment) :
    walkPath path segment true = walkPath path segment false ++ [""] ∨
      walkPath path segment true = walkPath path segment false ∧
        (renderPath (.segments (walkPath path segment false))).getLast? ≠ some '/' := by
  simp only [walkPath]
  split
  · left
    simp
  split
  · left
    simp
  · right
    refine ⟨rfl, ?_⟩
    have hlast := slash_not_mem_encode pathMarks hslash
    simp only [renderPath, List.flatMap_append, List.flatMap_cons, List.flatMap_nil,
      String.toList_ofList, List.append_nil]
    rw [List.getLast?_append_of_ne_nil _ (List.cons_ne_nil _ _),
      List.getLast?_cons_of_ne_nil (encode_ne_nil pathMarks hne)]
    exact fun heq => hlast (List.mem_of_getLast? heq)

/-! ## Paths -/

/-- The paths of a text with `k` slashes behind it and of the text with `/write` behind it. -/
def SegmentsGrow (k : Nat) (base written : List String) : Prop :=
  ∃ front j, base = front ++ List.replicate j "" ∧ written = front ++ ["write"] ∧ j ≤ max k 1 ∧
    (j = max k 1 ∨ (renderPath (.segments front)).getLast? ≠ some '/')

theorem walkAll_write (special : Bool) (cs : List Char) :
    walkAll [] (segmentsOf special (cs ++ "/write".toList)) =
      walk [] (segmentsOf special cs) ++ ["write"] := by
  change walkAll [] (segmentsOf special (cs ++ '/' :: "write".toList)) = _
  rw [segmentsOf_append_slash]
  cases special <;> exact walkAll_append_singleton [] _ "write".toList

theorem walkAll_slashes (special : Bool) (cs : List Char) (k : Nat) :
    walkAll [] (segmentsOf special (cs ++ List.replicate (k + 1) '/')) =
      walk [] (segmentsOf special cs) ++ List.replicate (k + 1) "" := by
  rw [segmentsOf_append_slashes, List.replicate_succ', ← List.append_assoc,
    walkAll_append_singleton, walk_append, walk_replicate, walkPath_nil, List.append_assoc,
    ← List.replicate_succ']

theorem walkAll_grows (special : Bool) (cs : List Char) {c : Char} (hc : isSlash special c = false)
    (k : Nat) :
    SegmentsGrow k (walkAll [] (segmentsOf special (cs ++ [c] ++ List.replicate k '/')))
      (walkAll [] (segmentsOf special (cs ++ [c] ++ "/write".toList))) := by
  rw [walkAll_write]
  cases k with
  | zero =>
      obtain ⟨init, last, hsegments, hne, hslash⟩ := exists_segmentsOf special cs hc
      rw [List.replicate_zero, List.append_nil, hsegments, walkAll_append_singleton, walk_append]
      change SegmentsGrow 0 _ (walkPath (walk [] init) last false ++ _)
      rcases walkPath_last (walk [] init) hne hslash with hdot | ⟨hsame, hend⟩
      · exact ⟨_, 1, hdot, rfl, by simp, .inl rfl⟩
      · exact ⟨_, 0, by simp [hsame], rfl, by simp, .inr hend⟩
  | succ k => exact ⟨_, k + 1, walkAll_slashes special _ k, rfl, by simp, .inl (by simp)⟩

theorem readPath_slashes (special : Bool) (k : Nat) :
    readPath special (List.replicate (k + 1) '/') = List.replicate (k + 1) "" := by
  have hsegments : segmentsOf special (List.replicate k '/') = List.replicate k [] ++ [[]] := by
    rw [← List.nil_append (List.replicate k '/'), segmentsOf_append_slashes, ← List.replicate_succ',
      List.replicate_succ]
    rfl
  rw [List.replicate_succ, readPath, isSlash_slash, if_pos rfl, hsegments,
    walkAll_append_singleton, walk_replicate, walkPath_nil, List.nil_append, List.replicate_succ']

/-- A slash at the start of a path is passed over. -/
theorem exists_readPath_append (special : Bool) (d : Char) (cs : List Char) :
    ∃ tail, ∀ more,
      readPath special (d :: cs ++ more) = walkAll [] (segmentsOf special (tail ++ more)) := by
  cases hd : isSlash special d with
  | true => exact ⟨cs, fun more => by rw [List.cons_append, readPath, if_pos hd]⟩
  | false =>
      exact ⟨d :: cs, fun more => by rw [List.cons_append, readPath, if_neg (by simp [hd])]⟩

/-- The path of a text that ends in another character than a slash. -/
theorem readPath_grows (special : Bool) {cs : List Char}
    (h : ∀ c ∈ cs.getLast?, isSlash special c = false) (k : Nat) :
    SegmentsGrow k (readPath special (cs ++ List.replicate k '/'))
      (readPath special (cs ++ "/write".toList)) := by
  rcases List.eq_nil_or_concat' cs with rfl | ⟨front, c, rfl⟩
  · have hwritten : readPath special ([] ++ "/write".toList) = [] ++ ["write"] := by
      cases special <;> rfl
    rw [hwritten, List.nil_append]
    cases k with
    | zero =>
        cases special with
        | false => exact ⟨[], 0, rfl, rfl, by simp, .inr (by simp [renderPath])⟩
        | true => exact ⟨[], 1, rfl, rfl, by simp, .inl rfl⟩
    | succ k => exact ⟨[], k + 1, readPath_slashes special k, rfl, by simp, .inl (by simp)⟩
  · have hc : isSlash special c = false := h c (by simp)
    cases front with
    | nil => simpa [readPath, hc] using walkAll_grows special [] hc k
    | cons d front =>
        obtain ⟨tail, htail⟩ := exists_readPath_append special d front
        rw [List.append_assoc, List.append_assoc, htail, htail, ← List.append_assoc,
          ← List.append_assoc]
        exact walkAll_grows special tail hc k

/-- A slash that is left at the end of a text stays in front of `/write`. -/
theorem readPath_doubled {special : Bool} {c : Char} (hc : isSlash special c = true) (k : Nat)
    (cs : List Char) :
    ∃ front, readPath special (cs ++ c :: List.replicate k '/') =
        front ++ List.replicate (k + 1) "" ∧
      readPath special (cs ++ c :: "/write".toList) = front ++ ["", "write"] := by
  have hstep : walk [] (segmentsOf special []) = [""] := rfl
  cases cs with
  | nil =>
      refine ⟨[], ?_, ?_⟩
      · rw [List.nil_append, readPath, if_pos hc, ← readPath_slashes special k,
          List.replicate_succ, readPath, if_pos (isSlash_slash special), List.nil_append]
      · rw [List.nil_append, readPath, if_pos hc, ← List.nil_append "/write".toList,
          walkAll_write, hstep]
        rfl
  | cons d cs =>
      obtain ⟨tail, htail⟩ := exists_readPath_append special d cs
      -- the slash that is left counts as one more of those behind it
      have hslash : ∀ more, segmentsOf special (tail ++ c :: more) =
          segmentsOf special (tail ++ ['/'] ++ more) := by
        intro more
        rw [segmentsOf_append_cons special hc, List.append_assoc, List.singleton_append,
          segmentsOf_append_slash]
      refine ⟨walk [] (segmentsOf special tail), ?_, ?_⟩
      · rw [htail, hslash, List.append_assoc, List.singleton_append, ← List.replicate_succ,
          walkAll_slashes]
      · rw [htail, hslash, walkAll_write, segmentsOf_append_slash, walk_append]
        exact List.append_assoc _ [""] ["write"]

end TopicBridge.Url
