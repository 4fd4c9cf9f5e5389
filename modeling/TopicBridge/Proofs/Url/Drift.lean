import TopicBridge.Proofs.Url.Blanks

/-! # Blanks inside a URL

Blanks at the end of a text are passed over. With a segment behind them they are inside: they go
into the host or the port, where there is no path, and else into the path.
-/

namespace TopicBridge.Url

variable {blanks : List Char}

/-! ## Paths -/

/-- The steps of `base` but for the last one, perhaps some more, a longer last one and `write`. -/
def SegmentsLonger (base written : List String) : Prop :=
  ∃ front more last longer, base = front ++ [last] ∧
    written = front ++ more ++ [longer, "write"] ∧ last.toList.length < longer.toList.length

theorem isSlash_of_isEdge {c : Char} (h : isEdge c = true) (special : Bool) :
    isSlash special c = false := by
  have hslash : c ≠ '/' := fun heq => absurd (heq ▸ h) (by decide)
  have hbackslash : c ≠ '\\' := fun heq => absurd (heq ▸ h) (by decide)
  simp [isSlash, hslash, hbackslash]

/-- A segment with a blank is no step but a name. -/
theorem walkPath_of_isEdge {segment : List Char} {c : Char} (hc : c ∈ segment)
    (h : isEdge c = true) (path : List String) (last : Bool) :
    walkPath path segment last = path ++ [String.ofList (encode pathMarks segment)] := by
  have hlower : isEdge c.toLower = true := of_isEdge h (by decide)
  have hstep : ∀ marks : List (List Char), marks.all (·.all fun d => !isEdge d) = true →
      marks.contains (segment.map Char.toLower) = false := by
    intro marks hmarks
    cases hmem : marks.contains (segment.map Char.toLower) with
    | false => rfl
    | true =>
        have hall := List.all_eq_true.mp hmarks _ (List.contains_iff_mem.mp hmem)
        have hedge := List.all_eq_true.mp hall _ (List.mem_map_of_mem hc)
        simp [hlower] at hedge
  have hback : isBack segment = false := hstep _ (by decide)
  have hhere : isHere segment = false := hstep _ (by decide)
  simp [walkPath, hback, hhere]

theorem segmentsOf_append_blanks (h : Blanks blanks) (special : Bool) (cs : List Char) :
    ∃ init last, segmentsOf special cs = init ++ [last] ∧
      segmentsOf special (cs ++ blanks) = init ++ [last ++ blanks] := by
  have hkept : blanks.map (fun c => if isSlash special c then '/' else c) = blanks := by
    refine (List.map_congr_left fun c hc => ?_).trans (List.map_id blanks)
    rw [isSlash_of_isEdge (h.2 c hc)]
    rfl
  obtain ⟨init, last, hcs, hmore⟩ :=
    Text.exists_split_append (h.not_mem (by decide : isEdge '/' = false))
      (cs.map fun c => if isSlash special c then '/' else c)
  exact ⟨init, last, hcs, by rw [segmentsOf, List.map_append, hkept, hmore]⟩

theorem exists_walkPath_last (path : List String) (segment : List Char) :
    ∃ front more last, path = front ++ more ∧ walkPath path segment true = front ++ [last] ∧
      last.toList.length ≤ (encode pathMarks segment).length := by
  rw [walkPath]
  split
  · refine ⟨path.dropLast, path.getLast?.toList, "", ?_, rfl, Nat.zero_le _⟩
    rcases List.eq_nil_or_concat' path with rfl | ⟨front, last, rfl⟩ <;> simp
  split
  · exact ⟨path, [], "", (List.append_nil path).symm, rfl, Nat.zero_le _⟩
  · exact ⟨path, [], _, (List.append_nil path).symm, rfl, by rw [String.toList_ofList]⟩

theorem walkAll_longer (h : Blanks blanks) (special : Bool) (cs : List Char) :
    SegmentsLonger (walkAll [] (segmentsOf special cs))
      (walkAll [] (segmentsOf special (cs ++ blanks ++ "/write".toList))) := by
  obtain ⟨init, last, hbase, hmore⟩ := segmentsOf_append_blanks h special cs
  obtain ⟨c, hc⟩ := List.exists_mem_of_ne_nil blanks h.1
  have hwritten : walkAll [] (segmentsOf special (cs ++ blanks ++ "/write".toList)) =
      walk [] init ++ [String.ofList (encode pathMarks (last ++ blanks)), "write"] := by
    rw [walkAll_write, hmore, walk_append]
    change walkPath (walk [] init) (last ++ blanks) false ++ _ = _
    rw [walkPath_of_isEdge (List.mem_append_right last hc) (h.2 c hc), List.append_assoc]
    rfl
  obtain ⟨front, more, name, hpath, hlast, hlength⟩ := exists_walkPath_last (walk [] init) last
  refine ⟨front, more, name, _, ?_, by rw [hwritten, hpath], ?_⟩
  · rw [hbase, walkAll_append_singleton, hlast]
  · have hpos := List.length_pos_of_ne_nil (encode_ne_nil pathMarks h.1)
    rw [String.toList_ofList, encode_append, List.length_append]
    omega

theorem head?_blanks (h : Blanks blanks) (more : List Char) :
    ∃ c rest, blanks ++ more = c :: rest ∧ isEdge c = true := by
  obtain ⟨c, rest, rfl⟩ := List.exists_cons_of_ne_nil h.1
  exact ⟨c, rest ++ more, rfl, h.2 c List.mem_cons_self⟩

theorem readPath_longer (h : Blanks blanks) {special : Bool} {cs : List Char}
    (hcs : special = true ∨ cs ≠ []) :
    SegmentsLonger (readPath special cs) (readPath special (cs ++ blanks ++ "/write".toList)) := by
  cases cs with
  | nil =>
      have hspecial : special = true := hcs.resolve_right (fun hne => hne rfl)
      subst hspecial
      obtain ⟨c, rest, hrest, hc⟩ := head?_blanks h "/write".toList
      have hlonger := walkAll_longer h true []
      have hread : readPath true (c :: rest) = walkAll [] (segmentsOf true (c :: rest)) := by
        simp [readPath, isSlash_of_isEdge hc]
      rw [List.nil_append, hrest] at hlonger ⊢
      rw [hread]
      exact hlonger
  | cons d rest =>
      cases hd : isSlash special d with
      | true => simpa [readPath, hd] using walkAll_longer h special rest
      | false => simpa [readPath, hd] using walkAll_longer h special (d :: rest)

theorem SegmentsLonger.filePath {base written : List String} (h : SegmentsLonger base written) :
    SegmentsLonger
      (if (base.dropWhile String.isEmpty).isEmpty then [""] else base.dropWhile String.isEmpty)
      (if (written.dropWhile String.isEmpty).isEmpty then [""]
        else written.dropWhile String.isEmpty) := by
  obtain ⟨front, more, last, longer, rfl, rfl, hlength⟩ := h
  have hnamed : longer.isEmpty = false := by
    cases hempty : longer.isEmpty with
    | false => rfl
    | true =>
        rw [String.isEmpty_iff.mp hempty] at hlength
        exact absurd hlength (Nat.not_lt_zero _)
  have hkept : [longer, "write"].dropWhile String.isEmpty = [longer, "write"] :=
    List.dropWhile_cons_of_neg (by simp [hnamed])
  rw [List.append_assoc, List.dropWhile_append, List.dropWhile_append, List.dropWhile_append,
    hkept]
  cases hfront : front.dropWhile String.isEmpty with
  | cons s rest => exact ⟨s :: rest, more, last, longer, rfl, by simp, hlength⟩
  | nil =>
      have hbase : (if ([last].dropWhile String.isEmpty).isEmpty then [""]
          else [last].dropWhile String.isEmpty) = [last] := by
        cases hlast : last.isEmpty with
        | true => simp [String.isEmpty_iff.mp hlast]
        | false => simp [hlast]
      have hwritten : (if (more.dropWhile String.isEmpty).isEmpty then [longer, "write"]
          else more.dropWhile String.isEmpty ++ [longer, "write"]) =
          more.dropWhile String.isEmpty ++ [longer, "write"] := by
        cases more.dropWhile String.isEmpty <;> rfl
      refine ⟨[], more.dropWhile String.isEmpty, last, longer, ?_, ?_, hlength⟩
      · simpa using hbase
      · simp only [List.isEmpty_nil, if_true, hwritten]
        rw [if_neg (by simp)]
        rfl

/-- A path that is longer than another one with `/write` behind it. -/
def PathLonger (base written : UrlPath) : Prop :=
  (renderPath base).length + "/write".toList.length < (renderPath written).length

theorem SegmentsLonger.path {base written : List String} (h : SegmentsLonger base written) :
    PathLonger (.segments base) (.segments written) := by
  obtain ⟨front, more, last, longer, rfl, rfl, hlength⟩ := h
  have hlast : (renderPath (.segments [last])).length = last.toList.length + 1 := by
    simp [renderPath]
  have hlonger : (renderPath (.segments [longer, "write"])).length =
      longer.toList.length + 1 + "/write".toList.length := by
    simp [renderPath]
  rw [PathLonger, renderPath_append, renderPath_append, renderPath_append, List.length_append,
    List.length_append, List.length_append, hlast, hlonger]
  omega

theorem readFilePath_longer (h : Blanks blanks) (cs : List Char) :
    PathLonger (readFilePath cs) (readFilePath (cs ++ blanks ++ "/write".toList)) :=
  (readPath_longer h (.inl rfl)).filePath.path

theorem plain_longer (h : Blanks blanks) (cs : List Char) :
    PathLonger (.plain (String.ofList (encode [] cs)))
      (.plain (String.ofList (encode [] (cs ++ blanks ++ "/write".toList)))) := by
  have hpos := List.length_pos_of_ne_nil (encode_ne_nil [] h.1)
  have hbase : renderPath (.plain (String.ofList (encode [] cs))) = encode [] cs :=
    String.toList_ofList
  have hwritten :
      renderPath (.plain (String.ofList (encode [] (cs ++ blanks ++ "/write".toList)))) =
        encode [] cs ++ encode [] blanks ++ "/write".toList := by
    rw [renderPath, String.toList_ofList, encode_append, encode_append]
    rfl
  rw [PathLonger, hbase, hwritten, List.length_append, List.length_append]
  omega

/-! ## Places -/

/-- A place with another host than `base`, or with a path that is too long for its write address. -/
def Drifts (base written : Option Authority × UrlPath) : Prop :=
  hostOf written.1 ≠ hostOf base.1 ∨ PathLonger base.2 written.2

variable {cs : List Char} {place written : Option Authority × UrlPath}

/-- Blanks go into the name if nothing follows it, and else into the path. -/
theorem cut_blanks (h : Blanks blanks) (special : Bool) (cs : List Char) :
    pathOf special cs = [] ∧ nameOf special (cs ++ blanks ++ "/write".toList) = cs ++ blanks ∧
        nameOf special cs = cs ∨
      nameOf special (cs ++ blanks ++ "/write".toList) = nameOf special cs ∧
        pathOf special (cs ++ blanks ++ "/write".toList) =
          pathOf special cs ++ blanks ++ "/write".toList ∧ pathOf special cs ≠ [] := by
  obtain ⟨hname, hpath⟩ := cut_write special (cs ++ blanks)
  rw [hname, hpath]
  have hblanks : ∀ c ∈ blanks, (!isSlash special c) = true :=
    fun c hc => by rw [isSlash_of_isEdge (h.2 c hc), Bool.not_false]
  by_cases hcs : pathOf special cs = []
  · left
    have hall : ∀ c ∈ cs, (!isSlash special c) = true := List.dropWhile_eq_nil_iff.mp hcs
    refine ⟨hcs, ?_, ?_⟩
    · rw [nameOf, List.takeWhile_append_of_pos hall, List.takeWhile_eq_self_iff.mpr hblanks]
    · exact List.takeWhile_eq_self_iff.mpr hall
  · right
    have hlength : (cs.takeWhile fun c => !isSlash special c).length ≠ cs.length := by
      have hcut := congrArg List.length (nameOf_append_pathOf special cs)
      have hpos := List.length_pos_of_ne_nil hcs
      rw [List.length_append, nameOf] at hcut
      omega
    have hempty : ¬ (cs.dropWhile fun c => !isSlash special c).isEmpty := by
      rwa [List.isEmpty_iff]
    refine ⟨?_, ?_, hcs⟩
    · rw [nameOf, List.takeWhile_append, if_neg hlength, nameOf]
    · rw [pathOf, List.dropWhile_append, if_neg hempty, pathOf]

theorem readLocated_drifts {scheme : String} (h : Blanks blanks)
    (hbase : readLocated scheme false cs = .ok place)
    (hwritten : readLocated scheme false (cs ++ blanks ++ "/write".toList) = .ok written) :
    Drifts place written := by
  obtain ⟨a, ha, rfl⟩ := exists_of_readLocated hbase
  obtain ⟨other, hother, rfl⟩ := exists_of_readLocated hwritten
  rcases cut_blanks h (isSpecial scheme) cs with ⟨-, hname, hcs⟩ | ⟨-, hpath, hne⟩
  · rw [hname] at hother
    rw [hcs] at ha
    exact .inl (hostOf_ne_of_blanks h ha hother)
  · right
    rw [hpath]
    exact (readPath_longer h (.inr hne)).path

theorem isDrive_append_blanks (h : Blanks blanks) (cs : List Char) :
    isDrive (cs ++ blanks) = false := by
  obtain ⟨front, c, rfl, hc⟩ := h.exists_last
  have hcolon : c ≠ ':' := fun heq => absurd (heq ▸ hc) (by decide)
  have hbar : c ≠ '|' := fun heq => absurd (heq ▸ hc) (by decide)
  rw [← List.append_assoc, isDrive.eq_def]
  split
  · next a d hcs =>
      have hlast := congrArg List.getLast? hcs
      rw [List.getLast?_concat] at hlast
      obtain rfl : c = d := by simpa using hlast
      simp [hcolon, hbar]
  · rfl

theorem readFile_located_drifts {a b : Char} (h : Blanks blanks) (ha : isSlash true a = true)
    (hb : isSlash true b = true) (hbase : readFile (a :: b :: cs) = .ok place)
    (hwritten : readFile (a :: b :: (cs ++ blanks ++ "/write".toList)) = .ok written) :
    Drifts place written := by
  rw [readFile_located ha hb] at hbase hwritten
  rcases cut_blanks h true cs with ⟨-, hname, -⟩ | ⟨hname, hpath, hne⟩
  · have hempty : ¬ (cs ++ blanks).isEmpty := by
      simp [h.1]
    rw [hname, if_neg hempty, if_neg (by simp [isDrive_append_blanks h])] at hwritten
    cases hhost : Host.readKnown (cs ++ blanks) with
    | error fault =>
        rw [hhost] at hwritten
        cases hwritten
    | ok host => exact absurd hhost (readKnown_append_blanks h cs host)
  · right
    rw [hname, hpath] at hwritten
    split at hbase
    · next hempty =>
        rw [if_pos hempty] at hwritten
        cases hbase
        cases hwritten
        exact readFilePath_longer h _
    · next hempty =>
        rw [if_neg hempty] at hwritten
        split at hbase
        · next hdrive =>
            rw [if_pos hdrive] at hwritten
            cases hbase
            cases hwritten
            exact readFilePath_longer h cs
        · next hdrive =>
            rw [if_neg hdrive] at hwritten
            cases hhost : Host.readKnown (nameOf true cs) with
            | error fault =>
                rw [hhost] at hbase
                cases hbase
            | ok host =>
                rw [hhost] at hbase hwritten
                cases hbase
                cases hwritten
                exact readFilePath_longer h _

theorem readFile_drifts (h : Blanks blanks) (hbase : readFile cs = .ok place)
    (hwritten : readFile (cs ++ blanks ++ "/write".toList) = .ok written) :
    Drifts place written := by
  by_cases hrooted : ∃ a b rest, cs = a :: b :: rest ∧ isSlash true a ∧ isSlash true b
  · obtain ⟨a, b, rest, rfl, ha, hb⟩ := hrooted
    exact readFile_located_drifts h ha hb hbase hwritten
  · have hcs : ∀ a b rest, cs = a :: b :: rest → ¬ (isSlash true a ∧ isSlash true b) :=
      fun a b rest heq hab => hrooted ⟨a, b, rest, heq, hab⟩
    have hmore : ∀ a b rest, cs ++ blanks ++ "/write".toList = a :: b :: rest →
        ¬ (isSlash true a ∧ isSlash true b) := by
      intro a b rest heq hab
      obtain ⟨c, tail, htail, hc⟩ := head?_blanks h "/write".toList
      have hblank := isSlash_of_isEdge hc true
      rw [List.append_assoc, htail] at heq
      match cs, heq with
      | [], heq =>
          obtain ⟨rfl, -⟩ := List.cons.inj heq
          exact absurd hab.1 (by simp [hblank])
      | [d], heq =>
          obtain ⟨-, hrest⟩ := List.cons.inj heq
          obtain ⟨rfl, -⟩ := List.cons.inj hrest
          exact absurd hab.2 (by simp [hblank])
      | d :: e :: cs, heq =>
          obtain ⟨rfl, hrest⟩ := List.cons.inj heq
          obtain ⟨rfl, -⟩ := List.cons.inj hrest
          exact hcs d e cs rfl hab
    rw [readFile_local hcs] at hbase
    rw [readFile_local hmore] at hwritten
    cases hbase
    cases hwritten
    exact .inr (readFilePath_longer h cs)

theorem head?_append_blanks (h : Blanks blanks) (hcs : cs.head? ≠ some '/') (more : List Char) :
    (cs ++ blanks ++ more).head? ≠ some '/' := by
  cases cs with
  | nil =>
      obtain ⟨c, rest, hrest, hc⟩ := head?_blanks h more
      rw [List.nil_append, hrest, List.head?_cons, Ne, Option.some.injEq]
      rintro rfl
      exact absurd hc (by decide)
  | cons c rest => exact hcs

/-- Blanks in front of `/write` change the host or stay in the path. -/
theorem readPlace_drifts {scheme : String} (h : Blanks blanks)
    (hbase : readPlace scheme false cs = .ok place)
    (hwritten : readPlace scheme false (cs ++ blanks ++ "/write".toList) = .ok written) :
    Drifts place written := by
  by_cases hfile : scheme = "file"
  · subst hfile
    rw [readPlace_file] at hbase hwritten
    exact readFile_drifts h hbase hwritten
  cases hspecial : isSpecial scheme with
  | true =>
      rw [readPlace_known hfile hspecial] at hbase hwritten
      by_cases hcs : (cs.dropWhile (isSlash true)).isEmpty
      · obtain ⟨a, ha, -⟩ := exists_of_readLocated hbase
        rw [List.isEmpty_iff.mp hcs, nameOf, List.takeWhile_nil,
          readAuthority_missing hspecial] at ha
        cases ha
      · rw [List.append_assoc, List.dropWhile_append, if_neg hcs, ← List.append_assoc] at hwritten
        exact readLocated_drifts h hbase hwritten
  | false =>
      by_cases hhead : cs.head? = some '/'
      · obtain ⟨rest, rfl⟩ := List.head?_eq_some_iff.mp hhead
        by_cases hrest : rest.head? = some '/'
        · obtain ⟨rest, rfl⟩ := List.head?_eq_some_iff.mp hrest
          simp only [List.cons_append] at hwritten
          rw [readPlace_located hspecial] at hwritten
          rw [readPlace_located hspecial] at hbase
          exact readLocated_drifts h hbase hwritten
        · rw [List.cons_append, List.cons_append,
            readPlace_rooted hspecial _ (head?_append_blanks h hrest _)] at hwritten
          rw [readPlace_rooted hspecial _ hrest] at hbase
          cases hbase
          cases hwritten
          exact .inr (readPath_longer h (.inr (List.cons_ne_nil '/' rest))).path
      · rw [readPlace_plain hspecial _ (head?_append_blanks h hhead _)] at hwritten
        rw [readPlace_plain hspecial _ hhead] at hbase
        cases hbase
        cases hwritten
        exact .inr (plain_longer h cs)

/-- Without a query and a fragment, blanks in front of `/write` change the host or stay in the
path, if there is a URL at all. -/
theorem parse_drifts {s w : List Char} {u v : Url} (h : Blanks blanks) (hs : tidy s = cs)
    (hw : tidy w = cs ++ blanks ++ "/write".toList) (hbase : parse (String.ofList s) = .ok u)
    (hquery : u.query = none) (hfragment : u.fragment = none)
    (hwritten : parse (String.ofList w) = .ok v) :
    Drifts (u.authority, u.path) (v.authority, v.path) := by
  have hmore : Signless (blanks ++ "/write".toList) :=
    (signless_of_forall fun c hc => .inl (h.2 c hc)).append signless_write
  have hnone : Signless [] := signless_of_forall (by simp)
  rw [← List.append_nil cs] at hs
  rw [List.append_assoc] at hw
  obtain ⟨lead, stem, -, -, hplace, hread⟩ := exists_place hs hnone hbase hquery hfragment
  obtain ⟨a, path, hplace', rfl⟩ := (hread w v _ hmore hw).mp hwritten
  rw [List.append_nil] at hplace
  rw [← List.append_assoc] at hplace'
  exact readPlace_drifts h hplace hplace'

end TopicBridge.Url
