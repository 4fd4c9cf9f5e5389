import TopicBridge.Influx.Sink
import TopicBridge.Proofs.Config.Overrides
import TopicBridge.Proofs.Url.Drift

/-! # Where lines are written to

Behind the URL of a server without query and fragment there is room for the path of its write
address, and the query of the address holds the database. Behind a query or a fragment there is
none: the path stays, and what was to be its end gets lost.
-/

namespace TopicBridge

namespace Influx

open Url

/-! ## Slashes at the end -/

/-- How many slashes stand at the end of a text. -/
def slashesBehind (s : List Char) : Nat := (s.reverse.takeWhile (· = '/')).length

theorem trimSlashes_append_slashes (s : List Char) :
    trimSlashes s ++ List.replicate (slashesBehind s) '/' = s := by
  have hslashes : s.reverse.takeWhile (· = '/') = List.replicate (slashesBehind s) '/' := by
    refine List.eq_replicate_iff.mpr ⟨rfl, fun c hc => ?_⟩
    simpa using List.mem_takeWhile_imp hc
  have hsplit := List.takeWhile_append_dropWhile (p := (· = '/')) (l := s.reverse)
  rw [hslashes] at hsplit
  rw [trimSlashes, ← List.reverse_replicate, ← List.reverse_append, hsplit, List.reverse_reverse]

theorem reverse_append_slashes (s : List Char) (n : Nat) :
    (s ++ List.replicate n '/').reverse = List.replicate n '/' ++ s.reverse := by
  rw [List.reverse_append, List.reverse_replicate]

theorem trimSlashes_append_replicate (s : List Char) (n : Nat) :
    trimSlashes (s ++ List.replicate n '/') = trimSlashes s := by
  rw [trimSlashes, reverse_append_slashes, List.dropWhile_append_of_pos, trimSlashes]
  simp

theorem slashesBehind_append_replicate (s : List Char) (n : Nat) :
    slashesBehind (s ++ List.replicate n '/') = n + slashesBehind s := by
  rw [slashesBehind, reverse_append_slashes, List.takeWhile_append_of_pos (by simp),
    List.length_append, List.length_replicate, slashesBehind]

theorem eq_trimSlashes_iff (s : List Char) : s = trimSlashes s ↔ slashesBehind s = 0 := by
  have hlength := congrArg List.length (trimSlashes_append_slashes s)
  rw [List.length_append, List.length_replicate] at hlength
  constructor
  · intro h
    rw [← h] at hlength
    omega
  · intro h
    have hs := trimSlashes_append_slashes s
    rw [h, List.replicate_zero, List.append_nil] at hs
    exact hs.symm

theorem slashesBehind_eq_zero {s : List Char} (h : s.getLast? ≠ some '/') :
    slashesBehind s = 0 := by
  cases hn : slashesBehind s with
  | zero => rfl
  | succ n =>
      have hs := trimSlashes_append_slashes s
      rw [hn, List.replicate_succ', ← List.append_assoc] at hs
      exact absurd (by rw [← hs, List.getLast?_concat]) h

/-! ## The text of a write address -/

section Text

variable {s : List Char} {u : Url}

theorem exists_visible (h : parse (String.ofList s) = .ok u) :
    ∃ c ∈ trimSlashes s, isEdge c = false := by
  obtain ⟨scheme, rest, hscheme⟩ := exists_scheme_of_parse h
  obtain ⟨lead, -, -, htidy, -⟩ := cutScheme?_eq_some_iff.mp hscheme
  rw [String.toList_ofList] at htidy
  have hcolon : ':' ∈ s := mem_of_mem_tidy (htidy ▸ by simp)
  rw [← trimSlashes_append_slashes s, List.mem_append] at hcolon
  rcases hcolon with hcolon | hcolon
  · exact ⟨':', hcolon, by decide⟩
  · exact absurd (List.eq_of_mem_replicate hcolon) (by decide)

theorem opened_eq (h : parse (String.ofList s) = .ok u) :
    opened s = opened (trimSlashes s) ++ List.replicate (slashesBehind s) '/' := by
  rw [← opened_append (exists_visible h), trimSlashes_append_slashes]
  intro c hc
  rw [List.eq_of_mem_replicate hc]
  decide

theorem isEdge_write {c : Char} (h : c ∈ "/write".toList) : isEdge c = false := by
  have hall : "/write".toList.all (fun c => !isEdge c) = true := by decide
  simpa using List.all_eq_true.mp hall c h

theorem tidy_write (h : parse (String.ofList s) = .ok u) :
    tidy (trimSlashes s ++ "/write".toList) = opened (trimSlashes s) ++ "/write".toList := by
  have hlast : ∀ c ∈ (trimSlashes s ++ "/write".toList).getLast?, isEdge c = false := by
    rw [List.getLast?_append_of_ne_nil _ (by decide)]
    exact fun c hc => isEdge_write (List.mem_of_getLast? hc)
  rw [tidy_of_getLast? hlast, opened_append (exists_visible h) fun c hc => isEdge_write hc]

/-- The text of a URL and the text of its write address have the same start. -/
theorem exists_tidy_eq (h : parse (String.ofList s) = .ok u) :
    ∃ cs more extra, tidy s = cs ++ more ∧
      tidy (trimSlashes s ++ "/write".toList) = cs ++ (extra ++ "/write".toList) ∧
      Signless more ∧ Signless (extra ++ "/write".toList) := by
  obtain ⟨blanks, hblanks, hedge⟩ := exists_opened_eq s
  rw [opened_eq h] at hblanks
  rw [tidy_write h]
  have hslash : ∀ c ∈ List.replicate (slashesBehind s) '/', isEdge c = true ∨ c = '/' :=
    fun c hc => .inr (List.eq_of_mem_replicate hc)
  rcases List.append_eq_append_iff.mp hblanks with ⟨more, htidy, hmore⟩ | ⟨extra, hstem, hextra⟩
  · refine ⟨opened (trimSlashes s), more, [], htidy, rfl, ?_, signless_write⟩
    exact signless_of_forall fun c hc => hslash c (hmore ▸ List.mem_append_left _ hc)
  · refine ⟨tidy s, [], extra, (List.append_nil _).symm, by rw [hstem, List.append_assoc],
      signless_of_forall (by simp), ?_⟩
    refine Signless.append (signless_of_forall fun c hc => ?_) signless_write
    exact .inl (hedge c (hextra ▸ List.mem_append_left _ hc))

/-- Blanks that are passed over at the end of a text are not in front of `/write`. -/
theorem exists_blanks (h : parse (String.ofList s) = .ok u) (hloose : opened s ≠ tidy s) :
    ∃ blanks, Blanks blanks ∧
      tidy (trimSlashes s ++ "/write".toList) = tidy s ++ blanks ++ "/write".toList := by
  obtain ⟨blanks, hblanks, hedge⟩ := exists_opened_eq s
  have hne : blanks ≠ [] := by
    rintro rfl
    exact hloose (by rw [hblanks, List.append_nil])
  have hall : Blanks blanks := ⟨hne, hedge⟩
  have hslashes : slashesBehind s = 0 := by
    cases hn : slashesBehind s with
    | zero => rfl
    | succ n =>
        obtain ⟨front, c, rfl, hc⟩ := hall.exists_last
        have hlast := congrArg List.getLast? hblanks
        rw [opened_eq h, hn, List.replicate_succ', ← List.append_assoc, ← List.append_assoc,
          List.getLast?_concat, List.getLast?_concat, Option.some.injEq] at hlast
        exact absurd (hlast ▸ hc) (by decide)
  refine ⟨blanks, hall, ?_⟩
  rw [tidy_write h, ← hblanks, opened_eq h, hslashes, List.replicate_zero, List.append_nil]

end Text

/-! ## Write addresses -/

/-- An address on the server of a base, with `/write` behind a path and with nothing but the
database in its query. -/
structure WritesTo (base : Url) (database : String) (path : List Char) (u : Url) : Prop where
  scheme : u.scheme = base.scheme
  host : hostOf u.authority = hostOf base.authority
  port : portOf u.authority = portOf base.authority
  path : renderPath u.path = path ++ "/write".toList
  query : u.query = some (String.ofList (formPair "db" database))

/-- A text of a base that `/write` can be put behind. -/
structure Neat (base : Url) (text : List Char) : Prop where
  /-- No blanks stand at its end. -/
  tight : opened text = tidy text
  /-- In front of the slashes at its end stands nothing else that is taken for a slash. -/
  trimmed : ∀ c ∈ (opened (trimSlashes text)).getLast?, isSlash (isSpecial base.scheme) c = false
  /-- Where there may be no host, no lone at sign stands in its place. -/
  named : isSpecial base.scheme = false →
    ∀ lead, ':' ∉ lead → opened (trimSlashes text) ≠ lead ++ "://@".toList

/-- What becomes of a base that is a URL. -/
structure WriteUrlSpec (s : InfluxSettings) (base : Url) : Prop where
  /-- Without a query and a fragment the address is on the same server, and its path is the path of
  the base less slashes at the end. It is less all of them unless the base has more of them than its
  text and more than one. -/
  joined : base.query = none → base.fragment = none → Neat base s.url.toList →
    ∃ e front n, Endpoint.ofSettings s = .ok e ∧ WritesTo base s.database front e.writeUrl ∧
      renderPath base.path = front ++ List.replicate n '/' ∧
      (front = trimSlashes (renderPath base.path) ↔
        slashesBehind (renderPath base.path) ≤ max (slashesBehind s.url.toList) 1)
  /-- Behind a query or a fragment `/write` goes into the last of both, and the path stays. -/
  pasted : base.query ≠ none ∨ base.fragment ≠ none →
    ∃ e, Endpoint.ofSettings s = .ok e ∧
      ((∃ f, e.writeUrl =
          { base with fragment := some (f ++ "/write") }.appendPair "db" s.database) ∨
        ∃ q, e.writeUrl =
          { base with query := some (q ++ "/write") }.appendPair "db" s.database) ∧
      ¬ WritesTo base s.database (trimSlashes (renderPath base.path)) e.writeUrl
  /-- Blanks at the end of the text get inside: there is no address, or not the one of the base. -/
  loose : base.query = none → base.fragment = none → opened s.url.toList ≠ tidy s.url.toList →
    ∀ e, Endpoint.ofSettings s = .ok e →
      ¬ WritesTo base s.database (trimSlashes (renderPath base.path)) e.writeUrl
  /-- Under a known scheme, but for files, there is an address behind the path of the base less all
  slashes at its end for a neat text without a query and a fragment, if the base has no more slashes
  than its text, or one, and for no other text. -/
  known : isSpecial base.scheme = true → base.scheme ≠ "file" →
    ((∃ e, Endpoint.ofSettings s = .ok e ∧
        WritesTo base s.database (trimSlashes (renderPath base.path)) e.writeUrl) ↔
      base.query = none ∧ base.fragment = none ∧ Neat base s.url.toList ∧
        slashesBehind (renderPath base.path) ≤ max (slashesBehind s.url.toList) 1)

variable {s : InfluxSettings} {base u : Url}

theorem parse_toList (h : parse s.url = .ok base) :
    parse (String.ofList s.url.toList) = .ok base := by
  rw [String.ofList_toList]
  exact h

theorem ofSettings_of_parse
    (h : parse (String.ofList (trimSlashes s.url.toList ++ "/write".toList)) = .ok u) :
    ∃ e, Endpoint.ofSettings s = .ok e ∧ e.writeUrl = u.appendPair "db" s.database := by
  rw [Endpoint.ofSettings, resolveWriteUrl, h]
  exact ⟨_, rfl, rfl⟩

/-- Slashes of the base beyond those that its text ends in stay in front of `/write`. -/
theorem eq_trimSlashes_iff_of_grows {front path : List Char} {j k : Nat}
    (hpath : path = front ++ List.replicate j '/') (hj : j ≤ max k 1)
    (hend : j = max k 1 ∨ front.getLast? ≠ some '/') :
    front = trimSlashes path ↔ slashesBehind path ≤ max k 1 := by
  rw [hpath, trimSlashes_append_replicate, slashesBehind_append_replicate, eq_trimSlashes_iff]
  rcases hend with hend | hend
  · omega
  · have hzero := slashesBehind_eq_zero hend
    omega

theorem ofSettings_joined (h : parse s.url = .ok base) (hquery : base.query = none)
    (hfragment : base.fragment = none) (hneat : Neat base s.url.toList) :
    ∃ e front n, Endpoint.ofSettings s = .ok e ∧ WritesTo base s.database front e.writeUrl ∧
      renderPath base.path = front ++ List.replicate n '/' ∧
      (front = trimSlashes (renderPath base.path) ↔
        slashesBehind (renderPath base.path) ≤ max (slashesBehind s.url.toList) 1) := by
  have hbase := parse_toList h
  have htidy := opened_eq hbase
  rw [hneat.tight] at htidy
  obtain ⟨u, hread, hscheme, hnoQuery, hnoFragment, hgrows⟩ := parse_grows htidy (tidy_write hbase)
    hneat.trimmed hneat.named hbase hquery hfragment
  obtain ⟨e, he, hurl⟩ := ofSettings_of_parse hread
  obtain ⟨front, j, hpath, hwritten, hj, hend⟩ := hgrows.path
  refine ⟨e, front, j, he, ?_, hpath, eq_trimSlashes_iff_of_grows hpath hj hend⟩
  rw [hurl]
  exact ⟨hscheme, hgrows.host, hgrows.port, hwritten, by rw [appendPair, hnoQuery]⟩

/-- A path without `/write` behind it is not the path of a write address. -/
theorem not_writesTo_of_path_eq {database : String} (h : u.path = base.path) :
    ¬ WritesTo base database (trimSlashes (renderPath base.path)) u := by
  intro hwrites
  have hpath := hwrites.path
  rw [h] at hpath
  have hend := List.append_cancel_left ((trimSlashes_append_slashes _).trans hpath)
  have hmem : 'w' ∈ List.replicate (slashesBehind (renderPath base.path)) '/' := by
    rw [hend]
    decide
  exact absurd (List.eq_of_mem_replicate hmem) (by decide)

theorem encode_write (marks : List Char) (h : encode marks "/write".toList = "/write".toList)
    (cs extra : List Char) :
    ∃ part, String.ofList (encode marks (cs ++ (extra ++ "/write".toList))) = part ++ "/write" := by
  refine ⟨String.ofList (encode marks (cs ++ extra)), ?_⟩
  rw [← List.append_assoc, encode_append, h, String.ofList_append, String.ofList_toList]

theorem ofSettings_pasted (h : parse s.url = .ok base)
    (hsign : base.query ≠ none ∨ base.fragment ≠ none) :
    ∃ e, Endpoint.ofSettings s = .ok e ∧
      ((∃ f, e.writeUrl =
          { base with fragment := some (f ++ "/write") }.appendPair "db" s.database) ∨
        ∃ q, e.writeUrl =
          { base with query := some (q ++ "/write") }.appendPair "db" s.database) ∧
      ¬ WritesTo base s.database (trimSlashes (renderPath base.path)) e.writeUrl := by
  have hbase := parse_toList h
  obtain ⟨cs, more, extra, hs, hw, hmore, hother⟩ := exists_tidy_eq hbase
  rcases parse_pasted hs hw hmore hother hbase hsign with ⟨f, hread⟩ | ⟨-, q, hread⟩
  · obtain ⟨e, he, hurl⟩ := ofSettings_of_parse hread
    obtain ⟨part, hpart⟩ := encode_write fragmentMarks (by decide) f extra
    rw [hpart] at hurl
    exact ⟨e, he, .inl ⟨part, hurl⟩, not_writesTo_of_path_eq (by rw [hurl]; rfl)⟩
  · obtain ⟨e, he, hurl⟩ := ofSettings_of_parse hread
    have hmarks : ∀ special, encode (queryMarks special) "/write".toList = "/write".toList := by
      decide
    obtain ⟨part, hpart⟩ := encode_write _ (hmarks (isSpecial base.scheme)) q extra
    rw [hpart] at hurl
    exact ⟨e, he, .inr ⟨part, hurl⟩, not_writesTo_of_path_eq (by rw [hurl]; rfl)⟩

theorem exists_of_ofSettings {e : Endpoint} (h : Endpoint.ofSettings s = .ok e) :
    ∃ u, parse (String.ofList (trimSlashes s.url.toList ++ "/write".toList)) = .ok u ∧
      e.writeUrl = u.appendPair "db" s.database := by
  rw [Endpoint.ofSettings, resolveWriteUrl] at h
  cases hread : parse (String.ofList (trimSlashes s.url.toList ++ "/write".toList)) with
  | error fault =>
      rw [hread] at h
      cases h
  | ok u =>
      rw [hread] at h
      cases h
      exact ⟨u, rfl, rfl⟩

/-- A path that is too long is not the path of a write address. -/
theorem not_writesTo_of_drifts {database : String}
    (h : Drifts (base.authority, base.path) (u.authority, u.path)) :
    ¬ WritesTo base database (trimSlashes (renderPath base.path)) u := by
  intro hwrites
  rcases h with hhost | hlonger
  · exact hhost hwrites.host
  · have hpath := congrArg List.length hwrites.path
    have htrim := congrArg List.length (trimSlashes_append_slashes (renderPath base.path))
    have hlength : (renderPath base.path).length + "/write".toList.length <
        (renderPath u.path).length := hlonger
    rw [List.length_append] at hpath htrim
    omega

theorem ofSettings_loose (h : parse s.url = .ok base) (hquery : base.query = none)
    (hfragment : base.fragment = none) (hloose : opened s.url.toList ≠ tidy s.url.toList)
    {e : Endpoint} (he : Endpoint.ofSettings s = .ok e) :
    ¬ WritesTo base s.database (trimSlashes (renderPath base.path)) e.writeUrl := by
  have hbase := parse_toList h
  obtain ⟨blanks, hblanks, htidy⟩ := exists_blanks hbase hloose
  obtain ⟨u, hread, hurl⟩ := exists_of_ofSettings he
  have hdrifts : Drifts (base.authority, base.path) (u.authority, u.path) :=
    parse_drifts hblanks (Eq.refl (tidy s.url.toList)) htidy hbase hquery hfragment hread
  rw [hurl]
  exact not_writesTo_of_drifts hdrifts

/-- A path with a slash too many is not the path of a write address. -/
theorem not_writesTo_of_doubled {database : String} (h : PathDoubled base.path u.path) :
    ¬ WritesTo base database (trimSlashes (renderPath base.path)) u := by
  intro hwrites
  obtain ⟨front, n, hbase, hwritten⟩ := h
  have hpath := congrArg List.length (hwritten.symm.trans hwrites.path)
  have htrim := congrArg List.length (trimSlashes_append_slashes front)
  rw [hbase, trimSlashes_append_replicate] at hpath
  simp only [List.length_append, String.length_toList] at hpath htrim
  have hlength : "//write".length = "/write".length + 1 := rfl
  omega

theorem ofSettings_doubled (h : parse s.url = .ok base) (hquery : base.query = none)
    (hfragment : base.fragment = none) (hspecial : isSpecial base.scheme = true)
    (hfile : base.scheme ≠ "file") (htight : opened s.url.toList = tidy s.url.toList) {c : Char}
    (hc : c ∈ (opened (trimSlashes s.url.toList)).getLast?) (hslash : isSlash true c = true)
    {e : Endpoint} (he : Endpoint.ofSettings s = .ok e) :
    ¬ WritesTo base s.database (trimSlashes (renderPath base.path)) e.writeUrl := by
  have hbase := parse_toList h
  obtain ⟨u, hread, hurl⟩ := exists_of_ofSettings he
  obtain ⟨front, hfront⟩ := List.getLast?_eq_some_iff.mp hc
  have htidy := opened_eq hbase
  have hwritten := tidy_write hbase
  rw [htight, hfront] at htidy
  rw [hfront] at hwritten
  have hdoubled : PathDoubled base.path u.path :=
    parse_doubled htidy hwritten hfile hspecial hslash hbase hquery hfragment hread
  rw [hurl]
  exact not_writesTo_of_doubled hdoubled

theorem WritesTo.front_eq {database : String} {p q : List Char} (hp : WritesTo base database p u)
    (hq : WritesTo base database q u) : p = q :=
  List.append_cancel_right (hp.path.symm.trans hq.path)

theorem ofSettings_known (h : parse s.url = .ok base) (hspecial : isSpecial base.scheme = true)
    (hfile : base.scheme ≠ "file") :
    (∃ e, Endpoint.ofSettings s = .ok e ∧
        WritesTo base s.database (trimSlashes (renderPath base.path)) e.writeUrl) ↔
      base.query = none ∧ base.fragment = none ∧ Neat base s.url.toList ∧
        slashesBehind (renderPath base.path) ≤ max (slashesBehind s.url.toList) 1 := by
  constructor
  · rintro ⟨e, he, hwrites⟩
    have hplain : base.query = none ∧ base.fragment = none := by
      by_contra hsign
      obtain ⟨e', he', -, hlost⟩ := ofSettings_pasted h (not_and_or.mp hsign)
      obtain rfl : e = e' := Except.ok.inj (he.symm.trans he')
      exact hlost hwrites
    obtain ⟨hquery, hfragment⟩ := hplain
    have htight : opened s.url.toList = tidy s.url.toList := by
      by_contra hloose
      exact ofSettings_loose h hquery hfragment hloose he hwrites
    have hneat : Neat base s.url.toList := by
      refine ⟨htight, fun c hc => ?_, fun hother => absurd hspecial (by simp [hother])⟩
      by_contra hslash
      rw [hspecial, Bool.not_eq_false] at hslash
      exact ofSettings_doubled h hquery hfragment hspecial hfile htight hc hslash he hwrites
    obtain ⟨e', front, n, he', hfront, -, hslashes⟩ := ofSettings_joined h hquery hfragment hneat
    obtain rfl : e = e' := Except.ok.inj (he.symm.trans he')
    exact ⟨hquery, hfragment, hneat, hslashes.mp (hfront.front_eq hwrites)⟩
  · rintro ⟨hquery, hfragment, hneat, hle⟩
    obtain ⟨e, front, n, he, hfront, -, hslashes⟩ := ofSettings_joined h hquery hfragment hneat
    rw [hslashes.mpr hle] at hfront
    exact ⟨e, he, hfront⟩

/-- A configuration that can be used has a base. Without a query and a fragment, and with a neat
text, lines are written to its server and behind its path; with either, and with blanks at the end
of its text, they are not. -/
theorem writeUrl_spec {c : Config} (h : c.validate = .ok c) (hs : c.influx = some s) :
    ∃ base, parse s.url = .ok base ∧ WriteUrlSpec s base := by
  obtain ⟨-, -, -, hinflux⟩ :=
    (Config.fault?_eq_none_iff c).mp ((Config.validate_eq_self_iff c).mp h)
  obtain ⟨⟨base, hbase⟩, -⟩ := hinflux s hs
  exact ⟨base, hbase, ofSettings_joined hbase, ofSettings_pasted hbase,
    fun hquery hfragment hloose _ he => ofSettings_loose hbase hquery hfragment hloose he,
    ofSettings_known hbase⟩

/-- A configuration that says where to write and nothing else. -/
def configAt (url : String) : Config :=
  ⟨"", some (.sketched (some url) "d"), .standard, Config.defaultQueueCapacity, some []⟩

theorem writeUrl_spec_slashes :
    (configAt "http://localhost:8086/a//").validate = .ok (configAt "http://localhost:8086/a//") ∧
      ∃ base, parse "http://localhost:8086/a//" = .ok base ∧
        WriteUrlSpec (.sketched (some "http://localhost:8086/a//") "d") base ∧
        base.query = none ∧ base.fragment = none ∧
        Neat base "http://localhost:8086/a//".toList := by
  have hvalid : (configAt "http://localhost:8086/a//").validate =
      .ok (configAt "http://localhost:8086/a//") := by decide +kernel
  have hread : parse "http://localhost:8086/a//" = .ok ⟨"http",
      some ⟨none, .domain "localhost", some 8086⟩, .segments ["a", "", ""], none, none⟩ := by
    decide +kernel
  obtain ⟨base, hbase, hspec⟩ := writeUrl_spec hvalid rfl
  obtain rfl := Except.ok.inj (hread.symm.trans hbase)
  have htrimmed :
      (opened (trimSlashes "http://localhost:8086/a//".toList)).getLast? = some 'a' := by
    decide
  refine ⟨hvalid, _, hbase, hspec, rfl, rfl, by decide, fun c hc => ?_,
    fun hother => absurd hother (by decide)⟩
  rw [htrimmed] at hc
  cases hc
  rfl

/-- A base with a query gets its path in the query, and one with a blank behind its port, which is
passed over when it is validated, gets no write address. -/
theorem writeUrl_lost :
    (configAt "http://h?x=1").validate = .ok (configAt "http://h?x=1") ∧
      (∃ base e, parse "http://h?x=1" = .ok base ∧
        Endpoint.ofSettings (.sketched (some "http://h?x=1") "d") = .ok e ∧
        e.writeUrl.render = "http://h/?x=1/write&db=d" ∧
        ¬ WritesTo base "d" (trimSlashes (renderPath base.path)) e.writeUrl) ∧
      (configAt "http://localhost:8086 ").validate = .ok (configAt "http://localhost:8086 ") ∧
      Endpoint.ofSettings (.sketched (some "http://localhost:8086 ") "d") =
        .error (.invalidUrl "http://localhost:8086 " .invalidPort) := by
  have hbase : parse "http://h?x=1" =
      .ok ⟨"http", some ⟨none, .domain "h", none⟩, .segments [""], some "x=1", none⟩ := by
    decide +kernel
  obtain ⟨e, he, -, hlost⟩ := ofSettings_pasted (s := .sketched (some "http://h?x=1") "d") hbase
    (.inl (by decide))
  have hrender : (Endpoint.ofSettings (.sketched (some "http://h?x=1") "d")).map
      (·.writeUrl.render) = .ok "http://h/?x=1/write&db=d" := by decide +kernel
  rw [he] at hrender
  refine ⟨by decide +kernel, ⟨_, e, hbase, he, ?_, hlost⟩, by decide +kernel, by decide +kernel⟩
  simpa [Except.map] using hrender

end Influx

end TopicBridge
