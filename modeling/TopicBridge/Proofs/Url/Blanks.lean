import TopicBridge.Proofs.Url.Reading

/-! # Blanks behind an authority

No host of a known scheme has blanks at its end, nor has a port, and a host of another scheme is not
the one without them.
-/

namespace TopicBridge.Text.Utf8

/-! ## ASCII in encoded texts -/

/-- Only bytes beyond ASCII go on with a character. -/
def Pending.Sound (p : Pending) : Prop := 0x80 ≤ p.low

theorem sound_lead (b : UInt8) : ∀ p ∈ (lead b).2, p.Sound := by
  intro p hp
  simp only [lead] at hp
  split at hp
  · cases hp
  split at hp
  · cases hp
  split at hp
  · cases hp
    exact (by decide : (0x80 : UInt8) ≤ 0x80)
  split at hp
  · cases hp
    simp only [Pending.Sound]
    split <;> decide
  split at hp
  · cases hp
    simp only [Pending.Sound]
    split <;> decide
  · cases hp

theorem sound_proceed (p : Pending) (b : UInt8) : ∀ q ∈ (proceed p b).2, q.Sound := by
  intro q hq
  simp only [proceed] at hq
  split at hq
  · split at hq
    · cases hq
    · cases hq
      exact (by decide : (0x80 : UInt8) ≤ 0x80)
  · exact sound_lead b q hq

/-- A byte of ASCII at the end is a character of its own. -/
theorem mem_pieces_of_ascii {b : UInt8} (hb : b < 0x80) (bs : List UInt8) {p : Option Pending}
    (hp : ∀ q ∈ p, q.Sound) : some (Char.ofNat b.toNat) ∈ pieces p (bs ++ [b]) := by
  have hlead : lead b = ([some (Char.ofNat b.toNat)], none) := by
    have hn : b.toNat < 0x80 := hb
    simp only [lead, hn, if_true]
  induction bs generalizing p with
  | nil =>
      cases p with
      | none => simp [pieces, hlead]
      | some q =>
          have hlow : ¬ (q.low ≤ b ∧ b ≤ q.high) := by
            rintro ⟨hle, -⟩
            exact absurd (hp q rfl) (UInt8.not_le.mpr (UInt8.lt_of_le_of_lt hle hb))
          simp [pieces, proceed, hlow, hlead]
  | cons c bs ih =>
      cases p with
      | none => exact List.mem_append_right _ (ih (sound_lead c))
      | some q => exact List.mem_append_right _ (ih (sound_proceed q c))

theorem mem_of_mapM_id {α : Type} {pieces : List (Option α)} {items : List α}
    (h : pieces.mapM id = some items) {a : α} (ha : some a ∈ pieces) : a ∈ items := by
  induction pieces generalizing items with
  | nil => cases ha
  | cons piece pieces ih =>
      simp only [List.mapM_cons, id_eq, Option.bind_eq_bind, Option.bind_eq_some_iff,
        Option.pure_def, Option.some.injEq] at h
      obtain ⟨first, rfl, rest, hrest, rfl⟩ := h
      rcases List.mem_cons.mp ha with hfirst | hmem
      · exact Option.some.inj hfirst ▸ List.mem_cons_self
      · exact List.mem_cons_of_mem _ (ih hrest hmem)

/-- A byte of ASCII at the end is in the text. -/
theorem mem_of_decode? {b : UInt8} (hb : b < 0x80) {bs : List UInt8} {s : String}
    (h : decode? (bs ++ [b]) = some s) : Char.ofNat b.toNat ∈ s.toList := by
  obtain ⟨cs, hcs, rfl⟩ := Option.map_eq_some_iff.mp h
  rw [String.toList_ofList]
  exact mem_of_mapM_id hcs (mem_pieces_of_ascii hb bs (fun q hq => by cases hq))

end TopicBridge.Text.Utf8

namespace TopicBridge.Url

/-! ## Hosts -/

/-- A blank is one of the first characters. -/
@[elab_as_elim]
theorem of_isEdge {p : Char → Prop} {c : Char} (h : isEdge c = true)
    (hall : ∀ n < 0x21, p (Char.ofNat n)) : p c := by
  have hn : c.toNat ≤ 0x20 := of_decide_eq_true h
  have hc := hall c.toNat (by omega)
  rwa [Char.ofNat_toNat] at hc

/-- No name holds a blank. -/
theorem not_all_isNameChar_of_isEdge {c : Char} (h : isEdge c = true) :
    (Host.foldNameChar c).all Host.isNameChar = false :=
  of_isEdge h (by decide)

theorem asciiName?_of_isEdge {cs : List Char} {c : Char} (hc : c ∈ cs) (h : isEdge c = true) :
    Host.asciiName? cs = none := by
  have hfolded : (cs.flatMap Host.foldNameChar).all Host.isNameChar = false := by
    rw [List.all_flatMap, List.all_eq_false]
    exact ⟨c, hc, by simp [not_all_isNameChar_of_isEdge h]⟩
  rw [Host.asciiName?]
  simp [hfolded]

theorem utf8EncodeChar_of_isEdge {c : Char} (h : isEdge c = true) :
    String.utf8EncodeChar c = [UInt8.ofNat c.toNat] :=
  of_isEdge h (by decide)

theorem isHexDigit_of_isEdge {c : Char} (h : isEdge c = true) : isHexDigit c = false :=
  of_isEdge h (by decide)

/-- A blank is no part of an escaped byte. -/
theorem decode_append_blank (cs : List Char) {c : Char} (h : isEdge c = true) :
    decode (cs ++ [c]) = decode cs ++ [UInt8.ofNat c.toNat] := by
  have hblank : decode [c] = [UInt8.ofNat c.toNat] := by
    simp [decode, utf8EncodeChar_of_isEdge h]
  fun_induction decode cs with
  | case1 => exact hblank
  | case2 a b cs hhex ih =>
      simp only [List.cons_append, decode, hhex, if_true, ih]
  | case3 a b cs hhex ih =>
      rw [List.cons_append, List.cons_append] at ih
      simp only [List.cons_append, decode, hhex, ih, List.append_assoc]
      rfl
  | case4 d cs hplain ih =>
      have hstep : decode (d :: (cs ++ [c])) = String.utf8EncodeChar d ++ decode (cs ++ [c]) := by
        match cs, hplain with
        | [], _ => simp [decode]
        | [a], _ =>
            by_cases hd : d = '%'
            · simp [decode, hd, isHexDigit_of_isEdge h]
            · simp [decode, hd]
        | a :: b :: rest, hplain =>
            have hd : d ≠ '%' := fun heq => hplain a b rest heq rfl
            simp [decode, hd]
      rw [List.cons_append, hstep, ih, List.append_assoc]

/-- Blanks, at least one. -/
def Blanks (cs : List Char) : Prop := cs ≠ [] ∧ ∀ c ∈ cs, isEdge c = true

variable {blanks : List Char}

theorem Blanks.exists_last (h : Blanks blanks) :
    ∃ front c, blanks = front ++ [c] ∧ isEdge c = true := by
  rcases List.eq_nil_or_concat' blanks with hnil | ⟨front, c, rfl⟩
  · exact absurd hnil h.1
  · exact ⟨front, c, rfl, h.2 c (by simp)⟩

/-- Brackets are not closed behind blanks. -/
theorem bracketed_append_blanks (h : Blanks blanks) {cs rest : List Char}
    (hcs : cs ++ blanks = '[' :: rest) (host : Host) : Host.bracketed rest ≠ .ok host := by
  obtain ⟨front, c, rfl, hc⟩ := h.exists_last
  have hlast : rest.getLast? = some c := by
    have hwhole := congrArg List.getLast? hcs
    rw [← List.append_assoc, List.getLast?_concat] at hwhole
    have hne : rest ≠ [] := by
      rintro rfl
      rw [List.getLast?_singleton, Option.some.injEq] at hwhole
      exact absurd hc (by rw [hwhole]; decide)
    rw [hwhole, List.getLast?_cons_of_ne_nil hne]
  have hbracket : c ≠ ']' := by
    rintro rfl
    exact absurd hc (by decide)
  rw [Host.bracketed, hlast, if_neg (by simpa using hbracket)]
  exact fun heq => by cases heq

theorem byte_of_isEdge {c : Char} (h : isEdge c = true) :
    UInt8.ofNat c.toNat < 0x80 ∧ Char.ofNat (UInt8.ofNat c.toNat).toNat = c :=
  of_isEdge h (by decide)

/-- No host under a known scheme has blanks at its end. -/
theorem readKnown_append_blanks (h : Blanks blanks) (cs : List Char) (host : Host) :
    Host.readKnown (cs ++ blanks) ≠ .ok host := by
  have hname : ((Text.Utf8.decode? (decode (cs ++ blanks))).bind fun s =>
      Host.asciiName? s.toList) = none := by
    obtain ⟨front, c, rfl, hc⟩ := h.exists_last
    obtain ⟨hbyte, hback⟩ := byte_of_isEdge hc
    rw [← List.append_assoc, decode_append_blank _ hc, Option.bind_eq_none_iff]
    intro s hs
    have hmem := Text.Utf8.mem_of_decode? hbyte hs
    rw [hback] at hmem
    exact asciiName?_of_isEdge hmem hc
  rw [Host.readKnown.eq_def]
  split
  · next rest hcs => exact bracketed_append_blanks h hcs host
  · rw [hname]
    exact fun heq => by cases heq

/-- A host under another scheme with blanks at its end is another one. -/
theorem readOther_append_blanks (h : Blanks blanks) {cs : List Char} {host other : Host}
    (hother : Host.readOther (cs ++ blanks) = .ok other) (hhost : Host.readOther cs = .ok host) :
    other ≠ host ∧ other ≠ .domain "" := by
  have hblanks : encode [] blanks ≠ [] := encode_ne_nil [] h.1
  rw [Host.readOther.eq_def] at hother
  split at hother
  · next rest hcs => exact absurd hother (bracketed_append_blanks h hcs other)
  · next hopen =>
      have hplain : ∀ rest, cs ≠ '[' :: rest :=
        fun rest hcs => hopen (rest ++ blanks) (by simp [hcs])
      rw [Host.readOther.eq_def] at hhost
      split at hhost
      · next rest => exact absurd rfl (hplain rest)
      · split at hother
        · cases hother
        · split at hhost
          · cases hhost
          · cases hother
            cases hhost
            rw [encode_append]
            constructor
            · intro heq
              have htext := congrArg String.toList (Host.domain.inj heq)
              rw [String.toList_ofList, String.toList_ofList, List.append_right_eq_self] at htext
              exact hblanks htext
            · intro heq
              have htext := congrArg String.toList (Host.domain.inj heq)
              rw [String.toList_ofList] at htext
              exact hblanks (List.append_eq_nil_iff.mp htext).2

/-! ## Authorities -/

/-- What is put behind a text goes into its port, if it has one, and else into its host. -/
theorem cutPort_append {more : List Char} (hmore : ':' ∉ more) (inside : Bool) (cs : List Char) :
    (cutPort inside (cs ++ more)).1 =
        (cutPort inside cs).1 ++ (if (cutPort inside cs).2.isSome then [] else more) ∧
      (cutPort inside (cs ++ more)).2 = (cutPort inside cs).2.map (· ++ more) := by
  have hwhole : ∀ inside, cutPort inside more = (more, none) := by
    induction more with
    | nil =>
        intro inside
        rfl
    | cons c more ih =>
        intro inside
        have hc : c ≠ ':' := fun heq => hmore (heq ▸ List.mem_cons_self)
        rw [cutPort, if_neg (by simp [hc]), ih fun hmem => hmore (List.mem_cons_of_mem _ hmem)]
  induction cs generalizing inside with
  | nil => simp [hwhole, cutPort]
  | cons c cs ih =>
      obtain ⟨hhost, hport⟩ := ih (if c = '[' then true else if c = ']' then false else inside)
      rw [List.cons_append, cutPort, cutPort]
      split
      · simp
      · exact ⟨congrArg (c :: ·) hhost, hport⟩

theorem cutUser_append {more : List Char} (hmore : '@' ∉ more) (cs : List Char) :
    (cutUser (cs ++ more)).2 = (cutUser cs).2 ++ more := by
  have hbehind : ∀ c ∈ more.reverse, decide (c ≠ '@') = true :=
    fun c hc => decide_eq_true (ne_of_mem_of_not_mem (List.mem_reverse.mp hc) hmore)
  have hcontains : (cs ++ more).contains '@' = cs.contains '@' := by
    simp [hmore]
  rw [cutUser, cutUser, hcontains]
  split
  · rw [List.reverse_append, List.takeWhile_append_of_pos hbehind, List.reverse_append,
      List.reverse_reverse]
  · rfl

/-- Reads a host under a scheme. -/
def readHost (scheme : String) (cs : List Char) : Except UrlFault Host :=
  if isSpecial scheme then Host.readKnown cs else Host.readOther cs

/-- An authority has a host and a port. -/
theorem host_of_readAuthority {scheme : String} {followed : Bool} {cs : List Char} {a : Authority}
    (h : readAuthority scheme followed cs = .ok a) :
    readHost scheme (cutPort false (cutUser cs).2).1 = .ok a.host ∧
      ∀ port ∈ (cutPort false (cutUser cs).2).2, ∃ n, readPort scheme port = .ok n := by
  simp only [readAuthority, bind, Except.bind, pure, Except.pure, throw, throwThe,
    MonadExceptOf.throw] at h
  split at h
  · cases h
  rw [readHost]
  split at h
  all_goals
    next hspecial =>
      split at h
      · cases h
      · next host hhost =>
          split at h
          · cases h
          split at h
          · next hport =>
              cases h
              refine ⟨by simpa [hspecial] using hhost, fun port hmem => ?_⟩
              rw [hport] at hmem
              cases hmem
          · next port hport =>
              split at h
              · cases h
              · next n hn =>
                  cases h
                  refine ⟨by simpa [hspecial] using hhost, fun port' hmem => ?_⟩
                  rw [hport] at hmem
                  cases hmem
                  exact ⟨n, hn⟩

theorem readPort_append_blanks (h : Blanks blanks) (scheme : String) (cs : List Char)
    (n : Option Nat) : readPort scheme (cs ++ blanks) ≠ .ok n := by
  obtain ⟨front, c, rfl, hc⟩ := h.exists_last
  have hdigit : c.isDigit = false := of_isEdge hc (by decide)
  rw [readPort, if_pos (by simp [hdigit])]
  exact fun heq => by cases heq

theorem Blanks.not_mem (h : Blanks blanks) {c : Char} (hc : isEdge c = false) : c ∉ blanks :=
  fun hmem => absurd (h.2 c hmem) (by simp [hc])

/-- An authority with blanks at its end has another host. -/
theorem hostOf_ne_of_blanks (h : Blanks blanks) {scheme : String} {followed followed' : Bool}
    {cs : List Char} {a other : Authority} (ha : readAuthority scheme followed cs = .ok a)
    (hother : readAuthority scheme followed' (cs ++ blanks) = .ok other) :
    hostOf (some other) ≠ hostOf (some a) := by
  obtain ⟨hhost, -⟩ := host_of_readAuthority ha
  obtain ⟨hhost', hport'⟩ := host_of_readAuthority hother
  obtain ⟨hname, hport⟩ := cutPort_append (h.not_mem (by decide : isEdge ':' = false)) false
    (cutUser cs).2
  rw [cutUser_append (h.not_mem (by decide : isEdge '@' = false))] at hhost' hport'
  rw [hname] at hhost'
  rw [hport] at hport'
  cases hcut : (cutPort false (cutUser cs).2).2 with
  | some port =>
      rw [hcut] at hport'
      obtain ⟨n, hn⟩ := hport' (port ++ blanks) rfl
      exact absurd hn (readPort_append_blanks h scheme port n)
  | none =>
      rw [hcut, Option.isSome_none, if_neg Bool.false_ne_true, readHost] at hhost'
      rw [readHost] at hhost
      split at hhost'
      · exact absurd hhost' (readKnown_append_blanks h _ _)
      · next hspecial =>
          rw [if_neg hspecial] at hhost
          obtain ⟨hne, hnamed⟩ := readOther_append_blanks h hhost' hhost
          simp only [hostOf, Option.bind_some, if_neg hnamed]
          split
          · exact Option.some_ne_none _
          · simpa using hne

end TopicBridge.Url
