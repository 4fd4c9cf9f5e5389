import TopicBridge.Proofs.Url.Place

/-! # A segment behind a text

The text of a URL is cut at its first colon, at its first fragment sign and in front of that at its
first query sign. What is put behind the text stays behind its last part.
-/

namespace TopicBridge.Url

/-! ## Blanks -/

/-- Whether a character is passed over at the ends of a text. -/
def isEdge (c : Char) : Bool := decide (c.toNat ≤ 0x20)

/-- Whether a character is passed over everywhere. -/
def isBreak (c : Char) : Bool := ['\t', '\n', '\r'].contains c

/-- A text without the characters that are passed over, but for blanks at its end. -/
def opened (s : List Char) : List Char := (s.dropWhile isEdge).filter fun c => !isBreak c

theorem tidy_eq (s : List Char) :
    tidy s = ((s.dropWhile isEdge).reverse.dropWhile isEdge).reverse.filter fun c => !isBreak c :=
  rfl

theorem isEdge_of_isBreak {c : Char} (h : isBreak c = true) : isEdge c = true := by
  have hbreaks : ['\t', '\n', '\r'].all isEdge = true := by decide
  exact List.all_eq_true.mp hbreaks c (by simpa [isBreak] using h)

theorem mem_of_mem_tidy {c : Char} {s : List Char} (h : c ∈ tidy s) : c ∈ s := by
  have hdrop := List.mem_reverse.mp (List.mem_filter.mp h).1
  have hopened := List.mem_reverse.mp ((List.dropWhile_sublist isEdge).subset hdrop)
  exact (List.dropWhile_sublist isEdge).subset hopened

/-- A tidy text is an opened one without the blanks at its end. -/
theorem exists_opened_eq (s : List Char) :
    ∃ blanks, opened s = tidy s ++ blanks ∧ ∀ c ∈ blanks, isEdge c = true := by
  have hsplit := List.takeWhile_append_dropWhile (p := isEdge) (l := (s.dropWhile isEdge).reverse)
  refine ⟨((s.dropWhile isEdge).reverse.takeWhile isEdge).reverse.filter fun c => !isBreak c,
    ?_, ?_⟩
  · rw [opened, tidy_eq, ← List.filter_append, ← List.reverse_append, hsplit, List.reverse_reverse]
  · intro c hc
    exact List.mem_takeWhile_imp (List.mem_reverse.mp (List.mem_filter.mp hc).1)

/-- What has no blank at its end is tidy once it is opened. -/
theorem tidy_of_getLast? {s : List Char} (h : ∀ c ∈ s.getLast?, isEdge c = false) :
    tidy s = opened s := by
  rcases List.eq_nil_or_concat' (s.dropWhile isEdge) with hnil | ⟨front, c, hfront⟩
  · rw [tidy_eq, opened, hnil]
    rfl
  · have hc : isEdge c = false := h c (mem_getLast?_of_dropWhile (p := isEdge) (by simp [hfront]))
    rw [tidy_eq, opened, hfront, List.reverse_append, List.reverse_singleton,
      List.singleton_append, List.dropWhile_cons_of_neg (by simp [hc]), List.reverse_cons,
      List.reverse_reverse]

theorem opened_append {s t : List Char} (hs : ∃ c ∈ s, isEdge c = false)
    (ht : ∀ c ∈ t, isEdge c = false) : opened (s ++ t) = opened s ++ t := by
  have hne : ¬ (s.dropWhile isEdge).isEmpty := by
    rw [List.isEmpty_iff, List.dropWhile_eq_nil_iff]
    obtain ⟨c, hc, hedge⟩ := hs
    exact fun hall => absurd (hall c hc) (by simp [hedge])
  have hkept : t.filter (fun c => !isBreak c) = t := by
    refine List.filter_eq_self.mpr fun c hc => ?_
    cases hbreak : isBreak c with
    | false => rfl
    | true => exact absurd (isEdge_of_isBreak hbreak) (by simp [ht c hc])
  rw [opened, List.dropWhile_append, if_neg hne, List.filter_append, hkept, ← opened]

/-! ## Scheme -/

theorem isSchemeChar_of_isAlpha {c : Char} (h : c.isAlpha = true) : isSchemeChar c = true := by
  simp [isSchemeChar, Char.isAlphanum, h]

theorem cutScheme?_eq_some_iff {cs rest : List Char} {scheme : String} :
    cutScheme? cs = some (scheme, rest) ↔ ∃ lead, (∃ c ∈ lead.head?, c.isAlpha = true) ∧
      (∀ d ∈ lead, isSchemeChar d = true) ∧ cs = lead ++ ':' :: rest ∧
      scheme = String.ofList (lead.map Char.toLower) := by
  constructor
  · intro h
    match cs, h with
    | c :: cs, h =>
        rw [cutScheme?] at h
        split at h
        · next hc =>
            split at h
            · next tail hdrop =>
                cases h
                have hsplit := List.takeWhile_append_dropWhile (p := isSchemeChar) (l := c :: cs)
                rw [hdrop] at hsplit
                refine ⟨(c :: cs).takeWhile isSchemeChar, ⟨c, ?_, hc⟩,
                  fun d hd => List.mem_takeWhile_imp hd, hsplit.symm, rfl⟩
                simp [isSchemeChar_of_isAlpha hc]
            · cases h
        · cases h
  · rintro ⟨lead, ⟨c, hc, halpha⟩, hlead, rfl, rfl⟩
    obtain ⟨tail, rfl⟩ : ∃ tail, lead = c :: tail := List.head?_eq_some_iff.mp hc
    have hcolon : isSchemeChar ':' = false := by decide
    have hdrop : (c :: tail ++ ':' :: rest).dropWhile isSchemeChar = ':' :: rest := by
      rw [List.dropWhile_append_of_pos hlead, List.dropWhile_cons_of_neg (by simp [hcolon])]
    have htake : (c :: tail ++ ':' :: rest).takeWhile isSchemeChar = c :: tail := by
      rw [List.takeWhile_append_of_pos hlead, List.takeWhile_cons_of_neg (by simp [hcolon]),
        List.append_nil]
    rw [List.cons_append] at hdrop htake ⊢
    simp only [cutScheme?, if_pos halpha, hdrop, htake]

/-- The scheme is cut off in front of what is put behind a text. -/
theorem exists_cutScheme?_append {cs more rest : List Char} {scheme : String}
    (hmore : ':' ∉ more) (h : cutScheme? (cs ++ more) = some (scheme, rest)) :
    ∃ lead stem, ':' ∉ lead ∧ cs = lead ++ ':' :: stem ∧ rest = stem ++ more ∧
      ∀ other, cutScheme? (cs ++ other) = some (scheme, stem ++ other) := by
  obtain ⟨lead, hhead, hlead, hcs, rfl⟩ := cutScheme?_eq_some_iff.mp h
  rcases List.append_eq_append_iff.mp hcs with ⟨front, -, hmore'⟩ | ⟨tail, hlead', htail⟩
  · exact absurd (hmore' ▸ List.mem_append_right _ List.mem_cons_self) hmore
  · cases tail with
    | nil =>
        rw [List.nil_append] at htail
        exact absurd (htail ▸ List.mem_cons_self) hmore
    | cons colon stem =>
        rw [List.cons_append, List.cons.injEq] at htail
        obtain ⟨rfl, rfl⟩ := htail
        have hcolon : ':' ∉ lead := fun hmem => absurd (hlead _ hmem) (by decide)
        refine ⟨lead, stem, hcolon, hlead', rfl, fun other => ?_⟩
        refine cutScheme?_eq_some_iff.mpr ⟨lead, hhead, hlead, ?_, rfl⟩
        rw [hlead', List.append_assoc, List.cons_append]

/-! ## Query and fragment -/

/-- Splits a text at the first of a sign. -/
def cutAt (sign : Char) (cs : List Char) : List Char × Option (List Char) :=
  match cs.dropWhile (· ≠ sign) with
  | [] => (cs, none)
  | _ :: rest => (cs.takeWhile (· ≠ sign), some rest)

theorem cutFragment_eq (cs : List Char) : cutFragment cs = cutAt '#' cs := rfl

theorem cutQuery_eq (cs : List Char) : cutQuery cs = cutAt '?' cs := rfl

theorem cutAt_of_not_mem {sign : Char} {cs : List Char} (h : sign ∉ cs) :
    cutAt sign cs = (cs, none) := by
  have hdrop : cs.dropWhile (· ≠ sign) = [] := by
    rw [List.dropWhile_eq_nil_iff]
    intro c hc
    exact decide_eq_true (ne_of_mem_of_not_mem hc h)
  rw [cutAt, hdrop]

/-- What is put behind a text without the sign does not change where the text is cut. -/
theorem cutAt_append (sign : Char) (cs : List Char) :
    sign ∉ cs ∨ ∃ front part, ∀ more, cutAt sign (cs ++ more) = (front, some (part ++ more)) := by
  by_cases h : sign ∈ cs
  · right
    obtain ⟨front, part, rfl, hfront⟩ := List.eq_append_cons_of_mem h
    refine ⟨front, part, fun more => ?_⟩
    have hpass : ∀ c ∈ front, decide (c ≠ sign) = true := by
      intro c hc
      exact decide_eq_true (ne_of_mem_of_not_mem hc hfront)
    rw [cutAt, List.append_assoc, List.dropWhile_append_of_pos hpass,
      List.takeWhile_append_of_pos hpass]
    simp
  · exact .inl h

/-! ## URLs -/

/-- The URL of a place with the texts of a query and a fragment. -/
def ofParts (scheme : String) (a : Option Authority) (path : UrlPath)
    (query fragment : Option (List Char)) : Url where
  scheme := scheme
  authority := a
  path := path
  query := query.map fun q => String.ofList (encode (queryMarks (isSpecial scheme)) q)
  fragment := fragment.map fun f => String.ofList (encode fragmentMarks f)

/-- A URL has a place, the text of a query and the text of a fragment. -/
def IsRead (scheme : String) (place : List Char) (query fragment : Option (List Char)) (u : Url) :
    Prop :=
  ∃ a path, readPlace scheme (query.isSome || fragment.isSome) place = .ok (a, path) ∧
    ofParts scheme a path query fragment = u

/-- No sign at which a URL is cut stands in a text. -/
def Signless (cs : List Char) : Prop := ':' ∉ cs ∧ '?' ∉ cs ∧ '#' ∉ cs

theorem signless_of_forall {cs : List Char} (h : ∀ c ∈ cs, isEdge c = true ∨ c = '/') :
    Signless cs := by
  refine ⟨?_, ?_, ?_⟩ <;> exact fun hmem => absurd (h _ hmem) (by decide)

theorem signless_write : Signless "/write".toList := ⟨by decide, by decide, by decide⟩

theorem signless_slashes (k : Nat) : Signless (List.replicate k '/') :=
  signless_of_forall fun _ hc => .inr (List.eq_of_mem_replicate hc)

theorem Signless.append {cs ds : List Char} (hcs : Signless cs) (hds : Signless ds) :
    Signless (cs ++ ds) := by
  obtain ⟨hcolon, hquery, hfragment⟩ := hcs
  obtain ⟨hcolon', hquery', hfragment'⟩ := hds
  exact ⟨by simp [hcolon, hcolon'], by simp [hquery, hquery'], by simp [hfragment, hfragment']⟩

section Parse

variable {s w : String} {u : Url} {scheme : String}

theorem parse_eq_ok_iff {rest located place : List Char} {query fragment : Option (List Char)}
    (hscheme : cutScheme? (tidy s.toList) = some (scheme, rest))
    (hfragment : cutAt '#' rest = (located, fragment))
    (hquery : cutAt '?' located = (place, query)) :
    parse s = .ok u ↔ IsRead scheme place query fragment u := by
  rw [parse, hscheme, IsRead]
  simp only [cutFragment_eq, hfragment, cutQuery_eq, hquery, bind, Except.bind, pure, Except.pure]
  cases readPlace scheme (query.isSome || fragment.isSome) place with
  | error fault => simp
  | ok place =>
      obtain ⟨a, path⟩ := place
      simp [ofParts]

/-- A text in which a URL can be read has a colon. -/
theorem exists_scheme_of_parse (h : parse s = .ok u) :
    ∃ scheme rest, cutScheme? (tidy s.toList) = some (scheme, rest) := by
  cases hcut : cutScheme? (tidy s.toList) with
  | none =>
      rw [parse, hcut] at h
      cases h
  | some cut => exact ⟨cut.1, cut.2, rfl⟩

variable {cs more other : List Char}

/-- What is put behind a text goes into the last part that the text has. -/
theorem exists_parts (hs : tidy s.toList = cs ++ more) (hmore : Signless more)
    (h : parse s = .ok u) :
    ∃ scheme lead stem, ':' ∉ lead ∧ cs = lead ++ ':' :: stem ∧
      ((∀ w v t, Signless t → tidy w = cs ++ t →
          (parse (String.ofList w) = .ok v ↔ IsRead scheme (stem ++ t) none none v)) ∨
        (∃ place part, ∀ w v t, Signless t → tidy w = cs ++ t →
          (parse (String.ofList w) = .ok v ↔ IsRead scheme place (some (part ++ t)) none v)) ∨
        ∃ place query part, ∀ w v t, Signless t → tidy w = cs ++ t →
          (parse (String.ofList w) = .ok v ↔ IsRead scheme place query (some (part ++ t)) v)) := by
  obtain ⟨scheme, rest, hscheme⟩ := exists_scheme_of_parse h
  rw [hs] at hscheme
  obtain ⟨lead, stem, hlead, hstem, -, hcut⟩ := exists_cutScheme?_append hmore.1 hscheme
  have hscheme : ∀ w t, tidy w = cs ++ t →
      cutScheme? (tidy (String.ofList w).toList) = some (scheme, stem ++ t) := by
    intro w t hw
    rw [String.toList_ofList, hw, hcut t]
  refine ⟨scheme, lead, stem, hlead, hstem, ?_⟩
  rcases cutAt_append '#' stem with hplain | ⟨front, part, hfragment⟩
  · have hfragment : ∀ t, Signless t → cutAt '#' (stem ++ t) = (stem ++ t, none) := by
      intro t ht
      exact cutAt_of_not_mem (by simp [hplain, ht.2.2])
    rcases cutAt_append '?' stem with hplain' | ⟨place, part, hquery⟩
    · refine .inl fun w v t ht hw => ?_
      have hquery : cutAt '?' (stem ++ t) = (stem ++ t, none) :=
        cutAt_of_not_mem (by simp [hplain', ht.2.1])
      exact parse_eq_ok_iff (hscheme w t hw) (hfragment t ht) hquery
    · exact .inr (.inl ⟨place, part, fun w v t ht hw =>
        parse_eq_ok_iff (hscheme w t hw) (hfragment t ht) (hquery t)⟩)
  · exact .inr (.inr ⟨_, _, part, fun w v t _ hw =>
      parse_eq_ok_iff (hscheme w t hw) (hfragment t) rfl⟩)

/-- Behind a query or a fragment a text goes into the last of both. -/
theorem parse_pasted {s w : List Char} (hs : tidy s = cs ++ more) (hw : tidy w = cs ++ other)
    (hmore : Signless more) (hother : Signless other) (h : parse (String.ofList s) = .ok u)
    (hu : u.query ≠ none ∨ u.fragment ≠ none) :
    (∃ f, parse (String.ofList w) =
        .ok { u with fragment := some (String.ofList (encode fragmentMarks (f ++ other))) }) ∨
      u.fragment = none ∧ ∃ q, parse (String.ofList w) = .ok { u with
        query := some
          (String.ofList (encode (queryMarks (isSpecial u.scheme)) (q ++ other))) } := by
  obtain ⟨scheme, lead, stem, -, -, hparts⟩ := exists_parts (by rwa [String.toList_ofList]) hmore h
  rcases hparts with hread | ⟨place, part, hread⟩ | ⟨place, query, part, hread⟩
  · obtain ⟨a, path, -, rfl⟩ := (hread s u more hmore hs).mp h
    simp [ofParts] at hu
  · obtain ⟨a, path, hplace, rfl⟩ := (hread s u more hmore hs).mp h
    exact .inr ⟨rfl, part, (hread w _ other hother hw).mpr ⟨a, path, hplace, rfl⟩⟩
  · obtain ⟨a, path, hplace, rfl⟩ := (hread s u more hmore hs).mp h
    refine .inl ⟨part, (hread w _ other hother hw).mpr ⟨a, path, ?_, rfl⟩⟩
    rwa [Option.isSome_some] at hplace ⊢

/-- What is put behind the text of a URL without a query and a fragment goes into its place. -/
theorem exists_place {s : List Char} (hs : tidy s = cs ++ more) (hmore : Signless more)
    (h : parse (String.ofList s) = .ok u) (hquery : u.query = none)
    (hfragment : u.fragment = none) :
    ∃ lead stem, ':' ∉ lead ∧ cs = lead ++ ':' :: stem ∧
      readPlace u.scheme false (stem ++ more) = .ok (u.authority, u.path) ∧
      ∀ w v t, Signless t → tidy w = cs ++ t →
        (parse (String.ofList w) = .ok v ↔ IsRead u.scheme (stem ++ t) none none v) := by
  obtain ⟨scheme, lead, stem, hlead, hcs, hparts⟩ :=
    exists_parts (by rwa [String.toList_ofList]) hmore h
  rcases hparts with hread | ⟨place, part, hread⟩ | ⟨place, query, part, hread⟩
  · obtain ⟨a, path, hplace, rfl⟩ := (hread s u more hmore hs).mp h
    exact ⟨lead, stem, hlead, hcs, hplace, hread⟩
  · obtain ⟨a, path, -, rfl⟩ := (hread s u more hmore hs).mp h
    cases hquery
  · obtain ⟨a, path, -, rfl⟩ := (hread s u more hmore hs).mp h
    cases hfragment

/-- Without a query and a fragment `/write` goes behind the path. -/
theorem parse_grows {s w : List Char} {k : Nat} (hs : tidy s = cs ++ List.replicate k '/')
    (hw : tidy w = cs ++ "/write".toList)
    (hlast : ∀ c ∈ cs.getLast?, isSlash (isSpecial u.scheme) c = false)
    (hat : isSpecial u.scheme = false → ∀ lead, ':' ∉ lead → cs ≠ lead ++ "://@".toList)
    (h : parse (String.ofList s) = .ok u) (hquery : u.query = none)
    (hfragment : u.fragment = none) :
    ∃ v, parse (String.ofList w) = .ok v ∧ v.scheme = u.scheme ∧ v.query = none ∧
      v.fragment = none ∧ PlaceGrows k (u.authority, u.path) (v.authority, v.path) := by
  obtain ⟨lead, stem, hlead, rfl, hplace, hread⟩ :=
    exists_place hs (signless_slashes k) h hquery hfragment
  have hstem : ∀ c ∈ stem.getLast?, isSlash (isSpecial u.scheme) c = false := by
    intro c hc
    refine hlast c ?_
    rw [List.getLast?_append_of_ne_nil _ (List.cons_ne_nil _ _)]
    exact mem_getLast?_cons hc
  have hstem' : isSpecial u.scheme = false → stem ≠ "//@".toList := by
    rintro hspecial rfl
    exact hat hspecial lead hlead rfl
  obtain ⟨⟨a, path⟩, hwritten, hgrows⟩ := readPlace_grows hstem hstem' hplace
  exact ⟨_, (hread w _ _ signless_write hw).mpr ⟨a, path, hwritten, rfl⟩, rfl, rfl, rfl, hgrows⟩

/-- Under a known scheme a slash that is left at the end of a text stays in front of `/write`. -/
theorem parse_doubled {s w : List Char} {c : Char} {k : Nat} {v : Url}
    (hs : tidy s = cs ++ [c] ++ List.replicate k '/') (hw : tidy w = cs ++ [c] ++ "/write".toList)
    (hfile : u.scheme ≠ "file") (hspecial : isSpecial u.scheme = true) (hc : isSlash true c = true)
    (h : parse (String.ofList s) = .ok u) (hquery : u.query = none) (hfragment : u.fragment = none)
    (hwritten : parse (String.ofList w) = .ok v) : PathDoubled u.path v.path := by
  obtain ⟨lead, stem, -, hcs, hplace, hread⟩ :=
    exists_place hs (signless_slashes k) h hquery hfragment
  obtain ⟨a, path, hplace', rfl⟩ := (hread w v _ signless_write hw).mp hwritten
  rcases List.eq_nil_or_concat' stem with rfl | ⟨front, d, rfl⟩
  · -- the text ends in its first colon, and a colon is no slash
    obtain rfl : c = ':' := by simpa using congrArg List.getLast? hcs
    exact absurd hc (by decide)
  · have hends : cs ++ [c] = (lead ++ ':' :: front) ++ [d] :=
      hcs.trans (List.append_assoc lead (':' :: front) [d]).symm
    obtain ⟨-, hcd⟩ := List.append_inj' hends rfl
    obtain rfl : c = d := List.singleton_inj.mp hcd
    rw [List.append_assoc, List.singleton_append] at hplace hplace'
    exact readPlace_doubled hfile hspecial hc hplace hplace'

end Parse

end TopicBridge.Url
