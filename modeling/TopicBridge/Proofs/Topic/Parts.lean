import TopicBridge.Proofs.Topic.Gathering

/-! # What each token has of a topic

A match leaves levels to each token of a pattern, whether it is named or not and whether its name
comes again or not. What parsing a topic gives is read off these levels: the first one that a
validator vetoes, and else the captures. -/

namespace TopicBridge

/-- The levels that a match leaves to tokens, whose groups are numbered from `n` on. -/
def Token.partsFrom (topic : List Char) (found : Regex.Found) :
    (n : Nat) → List Token → List (List Level)
  | _, [] => []
  | n, .literal text :: ts => [text.toList] :: partsFrom topic found n ts
  | n, .single _ :: ts =>
    [Pattern.dropSlash ((found.group? topic n).getD [])] :: partsFrom topic found (n + 1) ts
  | n, .multi _ :: ts =>
    Pattern.levelsOfGroup ((found.group? topic n).getD []) :: partsFrom topic found (n + 1) ts

namespace Pattern

/-- The levels that the tokens have of a topic, if it matches. -/
def parts? (p : Pattern) (topic : String) : Option (List (List Level)) :=
  ((Token.matcher p.tokens).search topic.toList).map fun found =>
    Token.partsFrom topic.toList found 1 p.tokens

theorem isSome_parts? (p : Pattern) (topic : String) :
    (p.parts? topic).isSome = p.isMatch topic := by
  rw [parts?, Option.isSome_map, isMatch, Regex.isMatch]

theorem exists_parts?_iff (p : Pattern) (topic : String) :
    (∃ parts, p.parts? topic = some parts) ↔ p.isMatch topic = true := by
  rw [← Option.isSome_iff_exists, isSome_parts?]

/-- The veto against the levels of a token. There is one only against a single wildcard with a name
that has a validator, and levels that this validator does not accept. -/
def veto? (p : Pattern) : Token × List Level → Option Reading
  | (.single name, [l]) =>
    if name.isEmpty then none
    else
      (p.validator? name).bind fun v =>
        if v.accepts (String.ofList l) then none
        else some (.rejected name (String.ofList l) v.rule)
  | _ => none

/-- What the levels of the tokens read as. -/
def readingOf (p : Pattern) (acc : Captures) (filling : List (Token × List Level)) : Reading :=
  (filling.findSome? p.veto?).getD (.captured (acc.insertAll (Token.valuesOf filling)))

section
variable {p : Pattern} {acc : Captures} {filling : List (Token × List Level)}

theorem readingOf_literal (text : String) (part : List Level) :
    p.readingOf acc ((.literal text, part) :: filling) = p.readingOf acc filling := by
  simp only [readingOf, List.findSome?_cons, veto?, Token.valuesOf_literal]

theorem readingOf_multi (name : String) (ls : List Level) :
    p.readingOf acc ((.multi name, ls) :: filling) =
      p.readingOf (acc.insertAll (Token.named name (.multi (ls.map String.ofList)))) filling := by
  simp only [readingOf, List.findSome?_cons, veto?, Token.valuesOf_multi, Captures.insertAll_append]

/-- A level without a veto becomes a capture. -/
theorem readingOf_single {name : String} {l : Level} (h : p.veto? (.single name, [l]) = none) :
    p.readingOf acc ((.single name, [l]) :: filling) =
      p.readingOf (acc.insertAll (Token.named name (.single (String.ofList l)))) filling := by
  simp only [readingOf, List.findSome?_cons, h, Token.valuesOf_single, Captures.insertAll_append]

theorem readingOf_vetoed {name : String} {l : Level} {r : Reading}
    (h : p.veto? (.single name, [l]) = some r) :
    p.readingOf acc ((.single name, [l]) :: filling) = r := by
  simp only [readingOf, List.findSome?_cons, h, Option.getD_some]

end

/-- Gathering captures from a match reads the levels that it leaves to the tokens. -/
theorem gather_eq (p : Pattern) (topic : List Char) (found : Regex.Found) (ts : List Token)
    (n : Nat) (acc : Captures) :
    p.gather topic found n acc ts =
      p.readingOf acc (ts.zip (Token.partsFrom topic found n ts)) := by
  induction ts generalizing n acc with
  | nil => rfl
  | cons t ts ih =>
      cases t with
      | literal text =>
          rw [Token.partsFrom, List.zip_cons_cons, readingOf_literal, ← ih]
          rfl
      | multi name =>
          rw [Token.partsFrom, List.zip_cons_cons, readingOf_multi, ← ih]
          simp only [gather, Token.named]
          split <;> rfl
      | single name =>
          rw [Token.partsFrom, List.zip_cons_cons]
          simp only [gather]
          by_cases hname : name.isEmpty = true
          · rw [if_pos hname, readingOf_single (by simp [veto?, hname]), ← ih]
            simp [Token.named, hname, Captures.insertAll]
          · rw [if_neg hname]
            cases hv : p.validator? name with
            | none =>
                rw [readingOf_single (by simp [veto?, hv]), ← ih]
                simp [Token.named, hname, Captures.insertAll]
            | some v =>
                simp only
                split
                · next haccepts =>
                    rw [readingOf_single (by simp [veto?, hv, haccepts]), ← ih]
                    simp [Token.named, hname, Captures.insertAll]
                · next haccepts =>
                    exact (readingOf_vetoed (by simp [veto?, hv, haccepts, hname])).symm

theorem parse_of_parts? {p : Pattern} {topic : String} {parts : List (List Level)}
    (h : p.parts? topic = some parts) :
    p.parse topic = p.readingOf .empty (p.tokens.zip parts) := by
  obtain ⟨found, hfound, rfl⟩ := Option.map_eq_some_iff.mp h
  rw [parse, hfound]
  exact gather_eq p topic.toList found p.tokens 1 .empty

theorem parse_of_not_isMatch {p : Pattern} {topic : String} (h : p.isMatch topic = false) :
    p.parse topic = .captured .empty := by
  rw [isMatch, Regex.isMatch, Option.isSome_eq_false_iff, Option.isNone_iff_eq_none] at h
  rw [parse, h]

theorem veto?_eq_none_of_no_validators {p : Pattern} (hv : p.validators = .empty)
    (x : Token × List Level) : p.veto? x = none := by
  unfold veto?
  split
  · simp [validator?, hv, Table.get?_empty]
  · rfl

/-- Without validators the captures are what the named tokens have of the topic. -/
theorem parse_of_no_validators {p : Pattern} (hv : p.validators = .empty) {topic : String}
    {parts : List (List Level)} (h : p.parts? topic = some parts) :
    p.parse topic = .captured (.ofList (Token.valuesOf (p.tokens.zip parts))) := by
  have hnone : (p.tokens.zip parts).findSome? p.veto? = none :=
    List.findSome?_eq_none_iff.mpr fun x _ => veto?_eq_none_of_no_validators hv x
  rw [parse_of_parts? h, readingOf, hnone]
  rfl

end Pattern

end TopicBridge
