import TopicBridge.Proofs.Json.Leaves
import TopicBridge.Proofs.Table

/-! # Objects are read back

The members of an object are read back one after the other, whether any keys are allowed or only
some. An object with sorted keys is read as it was written.
-/

namespace TopicBridge.Json

/-! ## Tables -/

/-- A schema reads a document from its text, whatever follows. -/
def ReadsBack (schema : Schema) (j : Json) : Prop :=
  ∀ fuel depth rest, Follows rest →
    readAs (fuel + 1) depth schema (renderChars j ++ rest) = .ok (j, rest)

theorem readsBack_scalar {v : Value} (h : v.Exact) : ReadsBack .scalar v.toJson := by
  intro fuel depth rest hrest
  have hscalar : isScalar v.toJson = true := by cases h <;> rfl
  rw [readAs, readValue_toJson h _ _ hrest]
  simp [bind, Except.bind, pure, Except.pure, hscalar]

theorem renderChars_text (s : String) (rest : List Char) :
    renderChars (.text s) ++ rest = '"' :: (s.toList.flatMap escapeChar ++ '"' :: rest) := by
  simp only [renderChars, quote, List.cons_append, List.append_assoc, List.nil_append]

theorem readsBack_text (s : String) : ReadsBack .text (.text s) := by
  intro fuel depth rest hrest
  have hread := readValue_toJson (.text s)
    ('"' :: (s.toList.flatMap escapeChar ++ '"' :: rest)).length 0 hrest
  simp only [Value.toJson, renderChars_text] at hread
  rw [renderChars_text, readAs, readLeaf, skipBlanks_cons (by decide)]
  change Except.bind (readValue _ 0 _) _ = _
  rw [hread]
  rfl

section Steps

variable {item : Schema} {acc : List (String × Json)} {k : String} {j : Json} {fuel depth : Nat}
  {written rest : List Char}

theorem readTable_comma
    (hread : readAs fuel depth item (written ++ ',' :: rest) = .ok (j, ',' :: rest)) :
    readTable (fuel + 1) depth item acc (quote k.toList ++ ':' :: (written ++ ',' :: rest)) =
      readTable fuel depth item ((k, j) :: acc) rest := by
  rw [readTable]
  simp only [quote, List.cons_append, List.append_assoc, List.nil_append,
    skipBlanks_cons (by decide : Solid '"'), readText_escaped, bind, Except.bind,
    skipBlanks_cons (by decide : Solid ':'), hread, skipBlanks_cons (by decide : Solid ',')]

theorem readTable_brace
    (hread : readAs fuel depth item (written ++ '\x7d' :: rest) = .ok (j, '\x7d' :: rest)) :
    readTable (fuel + 1) depth item acc (quote k.toList ++ ':' :: (written ++ '\x7d' :: rest)) =
      .ok (ofMembers ((k, j) :: acc).reverse, rest) := by
  rw [readTable]
  simp only [quote, List.cons_append, List.append_assoc, List.nil_append,
    skipBlanks_cons (by decide : Solid '"'), readText_escaped, bind, Except.bind, pure, Except.pure,
    skipBlanks_cons (by decide : Solid ':'), hread, skipBlanks_cons (by decide : Solid '\x7d')]

end Steps

theorem commas_renderMembers_cons (k : String) (j : Json) (m : String × Json)
    (ms : List (String × Json)) (rest : List Char) :
    commas (renderMembers ((k, j) :: m :: ms)) ++ rest =
      quote k.toList ++ ':' ::
        (renderChars j ++ ',' :: (commas (renderMembers (m :: ms)) ++ rest)) := by
  simp [renderMembers, commas]

/-- The members of an object are read up to its brace. -/
theorem readTable_members {item : Schema} {ms : List (String × Json)} (hne : ms ≠ [])
    (hms : ∀ m ∈ ms, ReadsBack item m.2) {fuel : Nat} (hfuel : ms.length < fuel) (depth : Nat)
    (acc : List (String × Json)) (rest : List Char) :
    readTable fuel depth item acc (commas (renderMembers ms) ++ '\x7d' :: rest) =
      .ok (ofMembers (acc.reverse ++ ms), rest) := by
  induction ms generalizing fuel acc with
  | nil => exact absurd rfl hne
  | cons m ms ih =>
      obtain ⟨k, j⟩ := m
      rw [List.length_cons] at hfuel
      obtain ⟨fuel, rfl⟩ : ∃ n, fuel = n + 2 := ⟨fuel - 2, by omega⟩
      have hj : ReadsBack item j := hms (k, j) List.mem_cons_self
      cases ms with
      | nil =>
          simp only [renderMembers, commas, List.append_assoc, List.cons_append]
          rw [readTable_brace (hj fuel depth _ (.brace rest)), List.reverse_cons]
      | cons n ns =>
          have hns := ih (by simp) (fun m hm => hms m (List.mem_cons_of_mem _ hm))
            (by omega : (n :: ns).length < fuel + 1) ((k, j) :: acc)
          rw [commas_renderMembers_cons, readTable_comma (hj fuel depth _ (.comma _)), hns,
            List.reverse_cons, List.append_assoc, List.singleton_append]

theorem sortMembers_of_increasing {ms : List (String × Json)} (h : Increasing ms) :
    sortMembers ms = ms := by
  induction ms using List.reverseRecOn with
  | nil => rfl
  | append_singleton ms m ih =>
      obtain ⟨hms, -, hlast⟩ := List.pairwise_append.mp h
      rw [sortMembers, List.foldl_append, ← sortMembers, ih hms]
      exact insertSorted_append m.1 m.2 fun e he => hlast e he m (by simp)

/-- An object with sorted keys is read back as a table. -/
theorem readAs_table {item : Schema} {ms : List (String × Json)}
    (hms : ∀ m ∈ ms, ReadsBack item m.2) (hsorted : Increasing ms) {fuel : Nat}
    (hfuel : ms.length + 1 < fuel) (depth : Nat) (rest : List Char) :
    readAs fuel (depth + 1) (.table item) (renderChars (.object ms) ++ rest) =
      .ok (.object ms, rest) := by
  obtain ⟨fuel, rfl⟩ : ∃ n, fuel = n + 1 := ⟨fuel - 1, by omega⟩
  cases ms with
  | nil =>
      rw [readAs.eq_def]
      rfl
  | cons m ms =>
      have hfuel' : (m :: ms).length < fuel := by simpa using hfuel
      have hread := readTable_members (List.cons_ne_nil m ms) hms hfuel' depth [] rest
      have hstart : ∃ cs, commas (renderMembers (m :: ms)) ++ '\x7d' :: rest = '"' :: cs := by
        cases ms <;> exact ⟨_, rfl⟩
      obtain ⟨cs, hcs⟩ := hstart
      rw [hcs] at hread
      rw [readAs.eq_def]
      simp only [renderChars, List.cons_append, List.append_assoc, List.nil_append, hcs,
        skipBlanks_cons (by decide : Solid '\x7b'), skipBlanks_cons (by decide : Solid '"')]
      change readTable fuel depth item [] ('"' :: cs) = _
      rw [hread, List.reverse_nil, List.nil_append, ofMembers, sortMembers_of_increasing hsorted]

/-! ## Named members -/

section Fields

variable {members : List (String × Bool × Schema)} {acc : List (String × Json)} {k : String}
  {mayLack : Bool} {schema : Schema} {j : Json} {fuel depth : Nat} {text rest : List Char}

theorem readAs_fields :
    readAs (fuel + 1) (depth + 1) (.fields members) ('\x7b' :: (quote k.toList ++ text)) =
      readFields fuel depth members [] (quote k.toList ++ text) := by
  rw [readAs.eq_def]
  simp only [quote, List.cons_append, skipBlanks_cons (by decide : Solid '\x7b'),
    skipBlanks_cons (by decide : Solid '"')]
  rfl

theorem readFields_comma (hk : lookup? k acc = none)
    (hschema : lookup? k members = some (mayLack, schema))
    (hread : readAs fuel depth schema (text ++ ',' :: rest) = .ok (j, ',' :: rest)) :
    readFields (fuel + 1) depth members acc (quote k.toList ++ ':' :: (text ++ ',' :: rest)) =
      readFields fuel depth members ((k, j) :: acc) rest := by
  simp only [quote, List.cons_append, List.append_assoc, List.nil_append, readFields,
    skipBlanks_cons (by decide : Solid '"'), readText_escaped, bind, Except.bind, hk,
    Option.isSome_none, Bool.false_eq_true, if_false, skipBlanks_cons (by decide : Solid ':'),
    hschema, hread, pure, Except.pure, skipBlanks_cons (by decide : Solid ',')]

theorem readFields_brace (hk : lookup? k acc = none)
    (hschema : lookup? k members = some (mayLack, schema))
    (hread : readAs fuel depth schema (text ++ '\x7d' :: rest) = .ok (j, '\x7d' :: rest))
    (hcomplete : lacksMember members ((k, j) :: acc) = false) :
    readFields (fuel + 1) depth members acc (quote k.toList ++ ':' :: (text ++ '\x7d' :: rest)) =
      .ok (ofMembers ((k, j) :: acc), rest) := by
  simp only [quote, List.cons_append, List.append_assoc, List.nil_append, readFields,
    skipBlanks_cons (by decide : Solid '"'), readText_escaped, bind, Except.bind, hk,
    Option.isSome_none, Bool.false_eq_true, if_false, skipBlanks_cons (by decide : Solid ':'),
    hschema, hread, pure, Except.pure, hcomplete, skipBlanks_cons (by decide : Solid '\x7d')]

end Fields

end TopicBridge.Json
