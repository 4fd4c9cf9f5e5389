import TopicBridge.Unicode.Ranges

/-! # White space

The characters with the property `White_Space`, and texts without such characters at their ends.
-/

namespace TopicBridge.Unicode

/-- The ranges of the white-space characters. -/
def blanks : Ranges :=
  [(0x9, 0xD), (0x20, 0x20), (0x85, 0x85), (0xA0, 0xA0), (0x1680, 0x1680), (0x2000, 0x200A),
    (0x2028, 0x2029), (0x202F, 0x202F), (0x205F, 0x205F), (0x3000, 0x3000)]

/-- Whether a character is white space. -/
def isBlank (c : Char) : Bool :=
  blanks.holds c.toNat

/-- A text without the white space at its two ends. -/
def trim (s : List Char) : List Char :=
  ((s.dropWhile isBlank).reverse.dropWhile isBlank).reverse

/-! ## Laws -/

private theorem dropWhile_of_head {s : List Char} (h : ∀ c ∈ s.head?, isBlank c = false) :
    s.dropWhile isBlank = s := by
  cases s with
  | nil => rfl
  | cons c s => rw [List.dropWhile_cons, if_neg (by simp [h c rfl])]

/-- Behind a text without white space only the end is cut. -/
theorem trim_append_of_ne_nil {s : List Char} (hne : s ≠ []) (hs : ∀ c ∈ s, isBlank c = false)
    (rest : List Char) : trim (s ++ rest) = s ++ (rest.reverse.dropWhile isBlank).reverse := by
  have hfront : ∀ c ∈ (s ++ rest).head?, isBlank c = false := by
    obtain ⟨d, t, rfl⟩ := List.exists_cons_of_ne_nil hne
    intro c hc
    cases hc
    exact hs d (List.mem_cons_self ..)
  have hback : ∀ c ∈ s.reverse.head?, isBlank c = false :=
    fun c hc => hs c (List.mem_reverse.1 (List.mem_of_head? hc))
  rw [trim, dropWhile_of_head hfront, List.reverse_append, List.dropWhile_append]
  split
  · next hnil =>
    rw [List.isEmpty_iff.1 hnil, dropWhile_of_head hback, List.reverse_reverse, List.reverse_nil,
      List.append_nil]
  · rw [List.reverse_append, List.reverse_reverse]

/-- White space behind a text without any is cut off. -/
theorem trim_append {s ws : List Char} (hs : ∀ c ∈ s, isBlank c = false)
    (hws : ∀ c ∈ ws, isBlank c = true) : trim (s ++ ws) = s := by
  have hnil : ∀ xs : List Char, (∀ c ∈ xs, isBlank c = true) → xs.dropWhile isBlank = [] := by
    intro xs hxs
    rw [← List.append_nil xs, List.dropWhile_append_of_pos hxs]
    rfl
  cases s with
  | nil =>
    rw [List.nil_append, trim, hnil ws hws]
    rfl
  | cons c s =>
    rw [trim_append_of_ne_nil (List.cons_ne_nil c s) hs,
      hnil ws.reverse fun d hd => hws d (List.mem_reverse.1 hd), List.reverse_nil, List.append_nil]

theorem trim_eq_self {s : List Char} (hs : ∀ c ∈ s, isBlank c = false) : trim s = s := by
  have htrim := trim_append hs (List.forall_mem_nil fun c => isBlank c = true)
  rwa [List.append_nil] at htrim

/-- Only white space is cut off, and only at the end if none stands in front. -/
theorem exists_trim_append {s : List Char} (h : ∀ c ∈ s.head?, isBlank c = false) :
    ∃ ws, (∀ c ∈ ws, isBlank c = true) ∧ s = trim s ++ ws := by
  refine ⟨(s.reverse.takeWhile isBlank).reverse, ?_, ?_⟩
  · intro c hc
    exact List.all_eq_true.1 List.all_takeWhile c (List.mem_reverse.1 hc)
  · rw [trim, dropWhile_of_head h, ← List.reverse_append, List.takeWhile_append_dropWhile,
      List.reverse_reverse]

/-- White space in front of a text is cut off. -/
theorem trim_blanks_append {ws : List Char} (hws : ∀ c ∈ ws, isBlank c = true) (s : List Char) :
    trim (ws ++ s) = trim s := by
  rw [trim, List.dropWhile_append_of_pos hws, ← trim]

/-- Nothing but white space is cut off. -/
theorem exists_trim (s : List Char) :
    ∃ front back, (∀ c ∈ front, isBlank c = true) ∧ (∀ c ∈ back, isBlank c = true) ∧
      s = front ++ trim s ++ back := by
  have hhead : ∀ c ∈ (s.dropWhile isBlank).head?, isBlank c = false := by
    intro c hc
    have hnot := List.head?_dropWhile_not isBlank s
    rw [Option.mem_def.1 hc] at hnot
    simpa using hnot
  obtain ⟨back, hback, hs⟩ := exists_trim_append hhead
  have hfront : ∀ c ∈ s.takeWhile isBlank, isBlank c = true :=
    fun c hc => List.all_eq_true.1 List.all_takeWhile c hc
  refine ⟨s.takeWhile isBlank, back, hfront, hback, ?_⟩
  have htrim := trim_blanks_append hfront (s.dropWhile isBlank)
  rw [List.takeWhile_append_dropWhile] at htrim
  rw [htrim, List.append_assoc, ← hs, List.takeWhile_append_dropWhile]

end TopicBridge.Unicode
