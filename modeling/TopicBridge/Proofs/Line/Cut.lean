import TopicBridge.Proofs.Line.Names

/-! # Cutting a body into lines

A body is read by a cursor that knows whether it is between quotes, and cut at the line breaks that
are not. Lines that end outside of quotes and hold no such break come apart where they were put
together. -/

namespace TopicBridge.Line

/-! ## The cursor -/

/-- Where in a line a character stands: in front of the first space, in the key of a field, in a
value or between the quotes of a text. -/
inductive Place
  | front
  | key
  | value
  | quoted
  deriving DecidableEq

/-- The characters that can be marked in a place. -/
def Place.marks : Place → List Char
  | quoted => ['\\', '"']
  | _ => nameMarks

/-- The place behind a character that is not marked. -/
def Place.next : Place → Char → Place
  | front, c => if c = ' ' then key else front
  | key, c => if c = '=' then value else key
  | value, c => if c = '"' then quoted else if c = ',' then key else value
  | quoted, c => if c = '"' then value else quoted

theorem Place.marks_of_ne_quoted {p : Place} (hp : p ≠ .quoted) : p.marks = nameMarks := by
  cases p with
  | quoted => exact absurd rfl hp
  | front => rfl
  | key => rfl
  | value => rfl

theorem Place.next_slash {p : Place} (hp : p ≠ .quoted) : p.next '\\' = p := by
  cases p with
  | quoted => exact absurd rfl hp
  | front => rfl
  | key => rfl
  | value => rfl

/-- A place in a line, and whether a backslash in front of it may mark the next character. -/
structure Cursor where
  place : Place
  slash : Bool
  deriving DecidableEq

namespace Cursor

/-- Where a line starts. -/
def start : Cursor := ⟨.front, false⟩

/-- The cursor behind one more character. -/
def next (p : Cursor) (c : Char) : Cursor :=
  if p.slash ∧ c ∈ p.place.marks then ⟨p.place, false⟩ else ⟨p.place.next c, c == '\\'⟩

/-- The cursor behind some characters. -/
def after (p : Cursor) (s : List Char) : Cursor := s.foldl next p

/-- All line breaks stand between quotes. -/
def OnOneLine (p : Cursor) : List Char → Prop
  | [] => True
  | c :: s => (c = '\n' → p.place = .quoted) ∧ (p.next c).OnOneLine s

/-- The pieces between the line breaks that are not quoted. -/
def cut (p : Cursor) : List Char → List (List Char)
  | [] => [[]]
  | c :: s =>
    if c = '\n' ∧ p.place ≠ .quoted then [] :: start.cut s
    else
      match (p.next c).cut s with
      | [] => [[c]]
      | piece :: pieces => (c :: piece) :: pieces

theorem after_cons (p : Cursor) (c : Char) (s : List Char) :
    p.after (c :: s) = (p.next c).after s := rfl

theorem after_append (p : Cursor) (s t : List Char) : p.after (s ++ t) = (p.after s).after t :=
  List.foldl_append

theorem onOneLine_append (p : Cursor) (s t : List Char) :
    p.OnOneLine (s ++ t) ↔ p.OnOneLine s ∧ (p.after s).OnOneLine t := by
  induction s generalizing p with
  | nil => simp [OnOneLine, after]
  | cons c s ih => simp [OnOneLine, after, ih, and_assoc]

/-- Without a line break there is no question. -/
theorem onOneLine_of_not_mem {p : Cursor} {s : List Char} (h : '\n' ∉ s) : p.OnOneLine s := by
  induction s generalizing p with
  | nil => exact trivial
  | cons c s ih =>
      rw [List.mem_cons, not_or] at h
      exact ⟨fun hc => absurd hc.symm h.1, ih h.2⟩

theorem after_of_fixed {p : Cursor} {s : List Char} (h : ∀ c ∈ s, p.next c = p) :
    p.after s = p := by
  induction s with
  | nil => rfl
  | cons c s ih =>
      rw [after_cons, h c List.mem_cons_self]
      exact ih fun d hd => h d (List.mem_cons_of_mem _ hd)

theorem cut_cons_of_quoted {p : Cursor} {c : Char} (h : c = '\n' → p.place = .quoted)
    {s piece : List Char} {pieces : List (List Char)} (hs : (p.next c).cut s = piece :: pieces) :
    p.cut (c :: s) = (c :: piece) :: pieces := by
  rw [cut, if_neg (fun hc => hc.2 (h hc.1)), hs]

theorem cut_of_onOneLine {p : Cursor} {s : List Char} (h : p.OnOneLine s) : p.cut s = [s] := by
  induction s generalizing p with
  | nil => rfl
  | cons c s ih => exact cut_cons_of_quoted h.1 (ih h.2)

/-- A body is cut behind a line that is one. -/
theorem cut_append_break {p : Cursor} {s : List Char} (h : p.OnOneLine s)
    (hend : (p.after s).place ≠ .quoted) (t : List Char) :
    p.cut (s ++ '\n' :: t) = s :: start.cut t := by
  induction s generalizing p with
  | nil => rw [List.nil_append, cut, if_pos ⟨rfl, hend⟩]
  | cons c s ih => exact cut_cons_of_quoted h.1 (ih h.2 hend)

/-- A text with a line break that is not quoted is cut inside. -/
theorem length_cut_of_not_onOneLine {p : Cursor} {s : List Char} (h : ¬ p.OnOneLine s)
    (t : List Char) : ∃ piece pieces, p.cut (s ++ t) = piece :: pieces ∧
      piece.length < s.length := by
  induction s generalizing p with
  | nil => exact absurd trivial h
  | cons c s ih =>
      by_cases hc : c = '\n' → p.place = .quoted
      · obtain ⟨piece, pieces, hcut, hlength⟩ := ih fun hs => h ⟨hc, hs⟩
        exact ⟨c :: piece, pieces, cut_cons_of_quoted hc hcut, Nat.succ_lt_succ hlength⟩
      · rw [Classical.not_imp] at hc
        exact ⟨[], start.cut (s ++ t), by rw [List.cons_append, cut, if_pos hc],
          Nat.zero_lt_succ _⟩

/-- Lines that end outside of quotes are cut apart if and only if each of them is one. -/
theorem cut_join {lines : List (List Char)} (hne : lines ≠ [])
    (hend : ∀ l ∈ lines, (start.after l).place ≠ .quoted) :
    start.cut (Text.join '\n' lines) = lines ↔ ∀ l ∈ lines, start.OnOneLine l := by
  induction lines with
  | nil => exact absurd rfl hne
  | cons l lines ih =>
      obtain ⟨rest, hjoin⟩ : ∃ rest, Text.join '\n' (l :: lines) = l ++ rest := by
        cases lines with
        | nil => exact ⟨[], (List.append_nil l).symm⟩
        | cons l' lines => exact ⟨_, rfl⟩
      by_cases hl : start.OnOneLine l
      · cases lines with
        | nil => simp [Text.join, cut_of_onOneLine hl, hl]
        | cons l' lines =>
            have hrest := ih (by simp) fun l hl => hend l (List.mem_cons_of_mem _ hl)
            rw [Text.join_cons_cons, cut_append_break hl (hend l List.mem_cons_self),
              List.forall_mem_cons, ← hrest]
            simp [hl]
      · obtain ⟨piece, pieces, hcut, hlength⟩ := length_cut_of_not_onOneLine hl rest
        rw [hjoin, hcut]
        refine iff_of_false ?_ fun h => hl (h l List.mem_cons_self)
        intro h
        rw [(List.cons.inj h).1] at hlength
        exact Nat.lt_irrefl _ hlength

/-! ## Pieces of a line -/

/-- Characters take a cursor to another one. Their line breaks are all quoted in a given case, and
only then. -/
structure Leads (p : Cursor) (s : List Char) (q : Cursor) (unbroken : Prop) : Prop where
  after : p.after s = q
  oneLine : p.OnOneLine s ↔ unbroken

namespace Leads

variable {p q r : Cursor} {s t : List Char} {a b : Prop}

theorem nil (p : Cursor) : p.Leads [] p True := ⟨rfl, Iff.rfl⟩

theorem append (hs : p.Leads s q a) (ht : q.Leads t r b) : p.Leads (s ++ t) r (a ∧ b) := by
  refine ⟨?_, ?_⟩
  · rw [after_append, hs.after, ht.after]
  · rw [onOneLine_append, hs.after, hs.oneLine, ht.oneLine]

theorem cons {c : Char} (hc : c ≠ '\n') (hs : (p.next c).Leads s q a) : p.Leads (c :: s) q a := by
  refine ⟨hs.after, ?_⟩
  rw [OnOneLine, hs.oneLine, and_iff_right fun h => absurd h hc]

theorem congr (hs : p.Leads s q a) (hab : a ↔ b) : p.Leads s q b := ⟨hs.after, hs.oneLine.trans hab⟩

theorem of_not_mem (hs : '\n' ∉ s) (h : p.after s = q) : p.Leads s q True :=
  ⟨h, iff_true_intro (onOneLine_of_not_mem hs)⟩

end Leads

/-- What leaves a place is marked, so a character stays in its place. -/
theorem leads_char {p : Cursor} {marked : List Char} {c : Char} (hp : p.place ≠ .quoted)
    (hmarks : marked ⊆ nameMarks) (hstays : c ∉ marked → p.place.next c = p.place) :
    p.Leads (if c ∈ marked then ['\\', c] else [c]) ⟨p.place, c == '\\'⟩ (c ≠ '\n') := by
  have hplace : p.place.marks = nameMarks := Place.marks_of_ne_quoted hp
  have hslash : '\\' ∉ p.place.marks := by
    rw [hplace]
    decide
  have hnext : ∀ d, p.place.next d = p.place → p.next d = ⟨p.place, d == '\\'⟩ := by
    intro d hd
    rw [next, hd]
    split
    · next h =>
        have hne : d ≠ '\\' := fun heq => hslash (heq ▸ h.2)
        simp [hne]
    · rfl
  by_cases hc : c ∈ marked
  · have hmark : c ∈ p.place.marks := hplace ▸ hmarks hc
    have hne : c ≠ '\\' := fun heq => hslash (heq ▸ hmark)
    have hbreak : c ≠ '\n' := fun heq => absurd (hmarks (heq ▸ hc)) (by decide)
    have hfirst : p.next '\\' = ⟨p.place, true⟩ := hnext _ (Place.next_slash hp)
    have hsecond : next ⟨p.place, true⟩ c = ⟨p.place, false⟩ := if_pos ⟨rfl, hmark⟩
    rw [if_pos hc, beq_false_of_ne hne]
    refine (Leads.of_not_mem (by simp [hbreak.symm]) ?_).congr (iff_of_true trivial hbreak)
    rw [after_cons, after_cons, hfirst, hsecond]
    rfl
  · rw [if_neg hc]
    exact ⟨hnext c (hstays hc), by simp [OnOneLine, hp]⟩

/-- A name stays in its place. A backslash at its end would mark the character after it. -/
theorem leads_mark {p : Cursor} {marked s : List Char} (hp : p.place ≠ .quoted)
    (hmarks : marked ⊆ nameMarks) (hstays : ∀ c, c ∉ marked → p.place.next c = p.place) :
    p.Leads (mark marked s) ⟨p.place, (s.map (· == '\\')).getLastD p.slash⟩ ('\n' ∉ s) := by
  induction s generalizing p with
  | nil => exact (Leads.nil p).congr (by simp)
  | cons c s ih =>
      have hrest := @ih ⟨p.place, c == '\\'⟩ hp hstays
      rw [mark_cons, List.map_cons, List.getLastD_cons]
      exact ((leads_char hp hmarks (hstays c)).append hrest).congr (by simp [eq_comm])

/-- The cursor behind the first quote of a text. -/
def insideQuotes : Cursor := ⟨.quoted, false⟩

theorem leads_char_quoted (c : Char) :
    insideQuotes.Leads (if c ∈ ['\\', '"'] then ['\\', c] else [c]) insideQuotes True := by
  split
  · next hc => exact ⟨if_pos ⟨rfl, hc⟩, iff_true_intro ⟨fun _ => rfl, fun _ => rfl, trivial⟩⟩
  · next hc =>
      simp only [List.mem_cons, List.not_mem_nil, or_false, not_or] at hc
      refine ⟨?_, iff_true_intro ⟨fun _ => rfl, trivial⟩⟩
      simp [insideQuotes, after, next, Place.next, hc]

/-- A text does not leave its quotes, whatever it holds. -/
theorem leads_mark_quoted (s : List Char) :
    insideQuotes.Leads (mark ['\\', '"'] s) insideQuotes True := by
  induction s with
  | nil => exact Leads.nil insideQuotes
  | cons c s ih =>
      rw [mark_cons]
      exact ((leads_char_quoted c).append ih).congr (by simp)

end Cursor

end TopicBridge.Line
