import Mathlib.Data.List.TakeWhile
import TopicBridge.Proofs.Url.Path

/-! # A segment behind a place

What stands behind the scheme is read the same way with slashes at its end as with `/write` behind
it: the host and the port are the same, and the paths have the same front.
-/

namespace TopicBridge.Url

/-! ## Authority -/

theorem eq_nil_of_cutPort {inside : Bool} {cs : List Char} (h : cutPort inside cs = ([], none)) :
    cs = [] := by
  cases cs with
  | nil => rfl
  | cons c cs =>
      rw [cutPort] at h
      split at h <;> simp at h

theorem eq_at_of_cutUser {cs : List Char} (h : cutUser cs = (some [], [])) : cs = ['@'] := by
  rw [cutUser] at h
  split at h
  · next hat =>
      simp only [Prod.mk.injEq, Option.some.injEq, List.reverse_eq_nil_iff] at h
      obtain ⟨hdrop, htake⟩ := h
      have hcs := List.takeWhile_append_dropWhile (p := fun c => decide (c ≠ '@')) (l := cs.reverse)
      rw [htake, List.nil_append] at hcs
      rw [hcs] at hdrop
      have hfront : cs.reverse = cs.reverse.take 1 := by
        have htaken := List.take_append_drop 1 cs.reverse
        rwa [hdrop, List.append_nil, eq_comm] at htaken
      have hlength : cs.length ≤ 1 := by
        have hle := congrArg List.length hfront
        rw [List.length_take, List.length_reverse] at hle
        omega
      match cs, hlength, hat with
      | [c], _, hat => simpa [eq_comm] using hat
  · simp at h

/-- Whether something comes behind an authority makes a difference for a lone at sign only. -/
theorem readAuthority_followed {cs : List Char} (h : cs ≠ ['@']) (scheme : String) (f g : Bool) :
    readAuthority scheme f cs = readAuthority scheme g cs := by
  have hnamed : (cutPort false (cutUser cs).2).1.isEmpty → (cutPort false (cutUser cs).2).2.isSome ∨
      (cutUser cs).1 ≠ some [] := by
    intro hempty
    by_cases hport : (cutPort false (cutUser cs).2).2.isSome
    · exact .inl hport
    · right
      intro huser
      have hcut : cutPort false (cutUser cs).2 = ([], none) :=
        Prod.ext (List.isEmpty_iff.mp hempty) (by simpa using hport)
      exact h (eq_at_of_cutUser (Prod.ext huser (eq_nil_of_cutPort hcut)))
  have hcondition : ((cutPort false (cutUser cs).2).1.isEmpty = true ∧
        ((cutPort false (cutUser cs).2).2.isSome = true ∨
          ((cutUser cs).1.bind readUser).isSome = true ∨ (cutUser cs).1 = some [] ∧ f = true)) ↔
      ((cutPort false (cutUser cs).2).1.isEmpty = true ∧
        ((cutPort false (cutUser cs).2).2.isSome = true ∨
          ((cutUser cs).1.bind readUser).isSome = true ∨ (cutUser cs).1 = some [] ∧ g = true)) := by
    refine and_congr_right fun hempty => ?_
    rcases hnamed hempty with hport | huser
    · simp [hport]
    · simp [huser]
  simp only [readAuthority, bind, Except.bind, pure, Except.pure, throw, throwThe,
    MonadExceptOf.throw, hcondition]

theorem readAuthority_at {scheme : String} (h : isSpecial scheme = true) (followed : Bool) :
    readAuthority scheme followed ['@'] = .error .emptyHost := by
  rw [readAuthority, h]
  rfl

/-! ## Growth -/

/-- The host that an authority names; an empty name is none. -/
def hostOf (a : Option Authority) : Option Host :=
  a.bind fun a => if a.host = .domain "" then none else some a.host

/-- The port that an authority names. -/
def portOf (a : Option Authority) : Option Nat := a.bind (·.port)

/-- The paths of a text with `k` slashes behind it and of the text with `/write` behind it. -/
def PathGrows (k : Nat) (base written : UrlPath) : Prop :=
  ∃ front j, renderPath base = front ++ List.replicate j '/' ∧
    renderPath written = front ++ "/write".toList ∧ j ≤ max k 1 ∧
    (j = max k 1 ∨ front.getLast? ≠ some '/')

/-- The places of a text with `k` slashes behind it and of the text with `/write` behind it. -/
structure PlaceGrows (k : Nat) (base written : Option Authority × UrlPath) : Prop where
  host : hostOf written.1 = hostOf base.1
  port : portOf written.1 = portOf base.1
  path : PathGrows k base.2 written.2

variable {k : Nat}

theorem renderPath_append (s t : List String) :
    renderPath (.segments (s ++ t)) = renderPath (.segments s) ++ renderPath (.segments t) :=
  List.flatMap_append

theorem renderPath_replicate (j : Nat) :
    renderPath (.segments (List.replicate j "")) = List.replicate j '/' := by
  induction j with
  | zero => rfl
  | succ j ih =>
      rw [List.replicate_succ', renderPath_append, ih, List.replicate_succ']
      rfl

theorem SegmentsGrow.path {base written : List String} (h : SegmentsGrow k base written) :
    PathGrows k (.segments base) (.segments written) := by
  obtain ⟨front, j, rfl, rfl, hj, hend⟩ := h
  refine ⟨renderPath (.segments front), j, ?_, ?_, hj, hend⟩
  · rw [renderPath_append, renderPath_replicate]
  · rw [renderPath_append]
    rfl

theorem SegmentsGrow.filePath {base written : List String} (h : SegmentsGrow k base written) :
    SegmentsGrow k
      (if (base.dropWhile String.isEmpty).isEmpty then [""] else base.dropWhile String.isEmpty)
      (if (written.dropWhile String.isEmpty).isEmpty then [""]
        else written.dropWhile String.isEmpty) := by
  obtain ⟨front, j, rfl, rfl, hj, hend⟩ := h
  have hslashes : (List.replicate j "").dropWhile String.isEmpty = [] := by
    simp
  have hwrite : ["write"].dropWhile String.isEmpty = ["write"] := by
    decide
  rw [List.dropWhile_append, List.dropWhile_append, hslashes, hwrite]
  cases hfront : front.dropWhile String.isEmpty with
  | nil => exact ⟨[], 1, rfl, rfl, Nat.le_max_right k 1, .inr (by simp [renderPath])⟩
  | cons s rest =>
      refine ⟨s :: rest, j, rfl, rfl, hj, hend.imp_right fun hlast => ?_⟩
      have hsplit := List.takeWhile_append_dropWhile (p := String.isEmpty) (l := front)
      rw [hfront] at hsplit
      rwa [← hsplit, renderPath_append,
        List.getLast?_append_of_ne_nil _ (by simp [renderPath])] at hlast

/-! ## Places with an authority -/

/-- A cut that stops at what stands behind a text is a cut of the text. -/
theorem cut_behind {p : Char → Bool} (cs : List Char) {rest : List Char}
    (hrest : ∀ c ∈ rest.head?, p c = false) :
    (cs ++ rest).takeWhile p = cs.takeWhile p ∧
      (cs ++ rest).dropWhile p = cs.dropWhile p ++ rest := by
  induction cs with
  | nil =>
      cases rest with
      | nil => exact ⟨rfl, rfl⟩
      | cons c rest =>
          have hc : p c = false := hrest c rfl
          simp [hc]
  | cons c cs ih =>
      obtain ⟨htake, hdrop⟩ := ih
      cases hc : p c <;> simp [hc, htake, hdrop]

theorem mem_getLast?_cons {c d : Char} {cs : List Char} (h : c ∈ cs.getLast?) :
    c ∈ (d :: cs).getLast? := by
  have hne : cs ≠ [] := by
    rintro rfl
    cases h
  rwa [List.getLast?_cons_of_ne_nil hne]

theorem mem_getLast?_of_dropWhile {p : Char → Bool} {cs : List Char} {c : Char}
    (h : c ∈ (cs.dropWhile p).getLast?) : c ∈ cs.getLast? := by
  have hne : cs.dropWhile p ≠ [] := by
    intro hnil
    simp [hnil] at h
  rwa [← List.takeWhile_append_dropWhile (p := p) (l := cs), List.getLast?_append_of_ne_nil _ hne]

section Cut

variable (special : Bool) (cs : List Char)

/-- What stands in front of the first slash. -/
def nameOf : List Char := cs.takeWhile fun c => !isSlash special c

/-- What starts with the first slash. -/
def pathOf : List Char := cs.dropWhile fun c => !isSlash special c

theorem nameOf_append_pathOf : nameOf special cs ++ pathOf special cs = cs :=
  List.takeWhile_append_dropWhile

theorem cut_slashes (k : Nat) : nameOf special (cs ++ List.replicate k '/') = nameOf special cs ∧
    pathOf special (cs ++ List.replicate k '/') = pathOf special cs ++ List.replicate k '/' := by
  refine cut_behind cs fun c hc => ?_
  rw [List.eq_of_mem_replicate (List.mem_of_mem_head? hc), isSlash_slash, Bool.not_true]

theorem cut_slash {c : Char} (hc : isSlash special c = true) (more : List Char) :
    nameOf special (cs ++ c :: more) = nameOf special cs ∧
      pathOf special (cs ++ c :: more) = pathOf special cs ++ c :: more :=
  cut_behind cs fun d hd => by
    obtain rfl : c = d := by simpa using hd
    rw [hc, Bool.not_true]

theorem cut_write : nameOf special (cs ++ "/write".toList) = nameOf special cs ∧
    pathOf special (cs ++ "/write".toList) = pathOf special cs ++ "/write".toList :=
  cut_slash special cs (isSlash_slash special) "write".toList

variable {special cs}

theorem isSlash_getLast?_pathOf (h : ∀ c ∈ cs.getLast?, isSlash special c = false) :
    ∀ c ∈ (pathOf special cs).getLast?, isSlash special c = false :=
  fun c hc => h c (mem_getLast?_of_dropWhile hc)

end Cut

section Located

variable {scheme : String} {cs : List Char} {place : Option Authority × UrlPath}

theorem readLocated_eq (followed : Bool) :
    readLocated scheme followed cs =
      (readAuthority scheme (followed || !(pathOf (isSpecial scheme) cs).isEmpty)
        (nameOf (isSpecial scheme) cs)).map fun a =>
          (some a, .segments (readPath (isSpecial scheme) (pathOf (isSpecial scheme) cs))) := by
  rw [readLocated, ← nameOf, ← pathOf]
  cases readAuthority scheme _ _ <;> rfl

theorem exists_of_readLocated {followed : Bool} (h : readLocated scheme followed cs = .ok place) :
    ∃ a, readAuthority scheme (followed || !(pathOf (isSpecial scheme) cs).isEmpty)
        (nameOf (isSpecial scheme) cs) = .ok a ∧
      place = (some a, .segments (readPath (isSpecial scheme) (pathOf (isSpecial scheme) cs))) := by
  rw [readLocated_eq] at h
  cases ha : readAuthority scheme (followed || !(pathOf (isSpecial scheme) cs).isEmpty)
      (nameOf (isSpecial scheme) cs) with
  | error fault =>
      rw [ha] at h
      cases h
  | ok a =>
      rw [ha] at h
      cases h
      exact ⟨a, rfl, rfl⟩

/-- An authority is read with slashes behind its path as with `/write`. -/
theorem readAuthority_behind {name path : List Char} {a : Authority}
    (hat : isSpecial scheme = false → name ++ path ≠ ['@'])
    (h : readAuthority scheme (!(path ++ List.replicate k '/').isEmpty) name = .ok a) :
    readAuthority scheme (!(path ++ "/write".toList).isEmpty) name = .ok a := by
  by_cases hname : name = ['@']
  · cases hspecial : isSpecial scheme with
    | true =>
        rw [hname, readAuthority_at hspecial] at h
        cases h
    | false =>
        have hne : path ≠ [] := by
          rintro rfl
          exact hat hspecial (by rw [hname, List.append_nil])
        obtain ⟨c, path, rfl⟩ := List.exists_cons_of_ne_nil hne
        exact h
  · rw [← h]
    exact readAuthority_followed hname scheme _ _

theorem readLocated_grows (hlast : ∀ c ∈ cs.getLast?, isSlash (isSpecial scheme) c = false)
    (hat : isSpecial scheme = false → cs ≠ ['@'])
    (h : readLocated scheme false (cs ++ List.replicate k '/') = .ok place) :
    ∃ written, readLocated scheme false (cs ++ "/write".toList) = .ok written ∧
      PlaceGrows k place written := by
  obtain ⟨hname, hpath⟩ := cut_slashes (isSpecial scheme) cs k
  obtain ⟨hname', hpath'⟩ := cut_write (isSpecial scheme) cs
  obtain ⟨a, ha, rfl⟩ := exists_of_readLocated h
  rw [hname, hpath, Bool.false_or] at ha
  rw [readLocated_eq, hname', hpath', Bool.false_or,
    readAuthority_behind (by rwa [nameOf_append_pathOf]) ha, hpath]
  exact ⟨_, rfl, rfl, rfl, (readPath_grows _ (isSlash_getLast?_pathOf hlast) k).path⟩

end Located

/-! ## Places of files -/

section File

variable {cs : List Char} {place : Option Authority × UrlPath}

theorem readFilePath_grows (hlast : ∀ c ∈ cs.getLast?, isSlash true c = false) (k : Nat) :
    PathGrows k (readFilePath (cs ++ List.replicate k '/'))
      (readFilePath (cs ++ "/write".toList)) :=
  (readPath_grows true hlast k).filePath.path

theorem readFilePath_slashes (k : Nat) :
    readFilePath (List.replicate k '/') = .segments [""] := by
  cases k with
  | zero => rfl
  | succ k => simp [readFilePath, readPath_slashes]

theorem readFile_local (h : ∀ a b rest, cs = a :: b :: rest → ¬ (isSlash true a ∧ isSlash true b)) :
    readFile cs = .ok (fileAuthority (.domain ""), readFilePath cs) := by
  match cs, h with
  | [], _ => rfl
  | [_], _ => rfl
  | a :: b :: rest, h => simp [readFile, h a b rest rfl]

theorem readFile_located {a b : Char} (ha : isSlash true a = true) (hb : isSlash true b = true)
    (rest : List Char) :
    readFile (a :: b :: rest) =
      if (nameOf true rest).isEmpty then
        .ok (fileAuthority (.domain ""), readFilePath (pathOf true rest))
      else if isDrive (nameOf true rest) then .ok (fileAuthority (.domain ""), readFilePath rest)
      else (Host.readKnown (nameOf true rest)).map fun host =>
        (fileAuthority (if host = .domain "localhost" then .domain "" else host),
          readFilePath (pathOf true rest)) := by
  simp only [readFile, ha, hb, Bool.and_self, if_true]
  rw [← nameOf, ← pathOf]
  cases Host.readKnown (nameOf true rest) <;> rfl

/-- Slashes alone lead to the root. -/
theorem readFile_slashes (k : Nat) :
    readFile (List.replicate k '/') = .ok (fileAuthority (.domain ""), .segments [""]) := by
  match k with
  | 0 => rfl
  | 1 => rfl
  | k + 2 =>
      have hcut := cut_slashes true [] k
      rw [List.replicate_succ, List.replicate_succ, readFile_located rfl rfl]
      simp only [List.nil_append, nameOf, pathOf, List.takeWhile_nil, List.dropWhile_nil] at hcut
      rw [nameOf, pathOf, hcut.1, hcut.2, readFilePath_slashes]
      rfl

theorem readFile_located_grows {a b : Char} (ha : isSlash true a = true)
    (hb : isSlash true b = true) (hlast : ∀ c ∈ cs.getLast?, isSlash true c = false)
    (h : readFile (a :: b :: (cs ++ List.replicate k '/')) = .ok place) :
    ∃ written, readFile (a :: b :: (cs ++ "/write".toList)) = .ok written ∧
      PlaceGrows k place written := by
  have hwhole := readFilePath_grows hlast k
  have hpath := readFilePath_grows (isSlash_getLast?_pathOf hlast) k
  obtain ⟨hnameSlashes, hpathSlashes⟩ := cut_slashes true cs k
  obtain ⟨hnameWrite, hpathWrite⟩ := cut_write true cs
  rw [readFile_located ha hb, hnameSlashes, hpathSlashes] at h
  rw [readFile_located ha hb, hnameWrite, hpathWrite]
  split at h
  · next hempty =>
      cases h
      exact ⟨_, if_pos hempty, rfl, rfl, hpath⟩
  · next hempty =>
      rw [if_neg hempty]
      split at h
      · next hdrive =>
          cases h
          exact ⟨_, if_pos hdrive, rfl, rfl, hwhole⟩
      · next hdrive =>
          rw [if_neg hdrive]
          cases hhost : Host.readKnown (nameOf true cs) with
          | error fault =>
              rw [hhost] at h
              cases h
          | ok host =>
              rw [hhost] at h
              cases h
              exact ⟨_, rfl, rfl, rfl, hpath⟩

theorem readFile_grows (hlast : ∀ c ∈ cs.getLast?, isSlash true c = false)
    (h : readFile (cs ++ List.replicate k '/') = .ok place) :
    ∃ written, readFile (cs ++ "/write".toList) = .ok written ∧ PlaceGrows k place written := by
  have hpath := readFilePath_grows hlast k
  match cs, hlast with
  | [], _ =>
      rw [List.nil_append, readFile_slashes] at h
      cases h
      exact ⟨_, rfl, rfl, rfl, [], 1, rfl, rfl, Nat.le_max_right k 1, .inr (by simp)⟩
  | [c], hlast =>
      have hc : isSlash true c = false := hlast c rfl
      have hlocal : ∀ rest, readFile ([c] ++ rest) =
          .ok (fileAuthority (.domain ""), readFilePath ([c] ++ rest)) := by
        intro rest
        apply readFile_local
        rintro a b tail hcs
        cases hcs
        simp [hc]
      rw [hlocal] at h
      cases h
      exact ⟨_, hlocal _, rfl, rfl, hpath⟩
  | a :: b :: rest, hlast =>
      by_cases hrooted : isSlash true a ∧ isSlash true b
      · have hrest : ∀ c ∈ rest.getLast?, isSlash true c = false :=
          fun c hc => hlast c (mem_getLast?_cons (mem_getLast?_cons hc))
        exact readFile_located_grows hrooted.1 hrooted.2 hrest h
      · have hlocal : ∀ more, readFile (a :: b :: rest ++ more) =
            .ok (fileAuthority (.domain ""), readFilePath (a :: b :: rest ++ more)) := by
          intro more
          apply readFile_local
          rintro a' b' tail hcs
          cases hcs
          exact hrooted
        rw [hlocal] at h
        cases h
        exact ⟨_, hlocal _, rfl, rfl, hpath⟩

end File

/-! ## Places -/

section Place

variable {scheme : String} {cs : List Char} {place : Option Authority × UrlPath}

theorem plain_grows (hlast : cs.getLast? ≠ some '/') (k : Nat) :
    PathGrows k (.plain (String.ofList (encode [] (cs ++ List.replicate k '/'))))
      (.plain (String.ofList (encode [] (cs ++ "/write".toList)))) := by
  have hslashes : encode [] (List.replicate k '/') = List.replicate k '/' := by
    induction k with
    | zero => rfl
    | succ k ih => rw [List.replicate_succ', encode_append, ih]; rfl
  refine ⟨encode [] cs, k, ?_, ?_, Nat.le_max_left k 1, .inr (getLast?_encode_ne [] hlast)⟩
  · rw [renderPath, String.toList_ofList, encode_append, hslashes]
  · rw [renderPath, String.toList_ofList, encode_append]
    rfl

theorem readAuthority_nil (h : isSpecial scheme = false) (followed : Bool) :
    readAuthority scheme followed [] = .ok ⟨none, .domain "", none⟩ := by
  rw [readAuthority, h]
  rfl

theorem readAuthority_missing (h : isSpecial scheme = true) (followed : Bool) :
    readAuthority scheme followed [] = .error .emptyHost := by
  rw [readAuthority, h]
  rfl

theorem readPlace_file (followed : Bool) : readPlace "file" followed cs = readFile cs := by
  unfold readPlace
  rw [if_pos rfl]

theorem readPlace_known (hfile : scheme ≠ "file") (hspecial : isSpecial scheme = true)
    (followed : Bool) :
    readPlace scheme followed cs = readLocated scheme followed (cs.dropWhile (isSlash true)) := by
  unfold readPlace
  rw [if_neg hfile, if_pos hspecial]

section Other

variable (hspecial : isSpecial scheme = false) (followed : Bool)
include hspecial

theorem ne_file : scheme ≠ "file" := by
  rintro rfl
  exact absurd hspecial (by decide)

theorem readPlace_located :
    readPlace scheme followed ('/' :: '/' :: cs) = readLocated scheme followed cs := by
  simp [readPlace, ne_file hspecial, hspecial]

theorem readPlace_rooted (h : cs.head? ≠ some '/') :
    readPlace scheme followed ('/' :: cs) = .ok (none, .segments (readPath false ('/' :: cs))) := by
  unfold readPlace
  rw [if_neg (ne_file hspecial), if_neg (by simp [hspecial])]
  match cs, h with
  | [], _ => rfl
  | c :: cs, h => simp [show c ≠ '/' by simpa using h]

theorem readPlace_plain (h : cs.head? ≠ some '/') :
    readPlace scheme followed cs = .ok (none, .plain (String.ofList (encode [] cs))) := by
  unfold readPlace
  rw [if_neg (ne_file hspecial), if_neg (by simp [hspecial])]
  match cs, h with
  | [], _ => rfl
  | c :: cs, h => simp [show c ≠ '/' by simpa using h]

end Other

/-- Slashes alone lead to no host. -/
theorem readPlace_slashes (hspecial : isSpecial scheme = false) (k : Nat) :
    ∃ a path n, readPlace scheme false (List.replicate k '/') = .ok (a, path) ∧
      hostOf a = none ∧ portOf a = none ∧ n ≤ max k 1 ∧ renderPath path = List.replicate n '/' := by
  match k with
  | 0 => exact ⟨_, _, 0, readPlace_plain hspecial false (by simp), rfl, rfl, by simp, rfl⟩
  | 1 => exact ⟨_, _, 1, readPlace_rooted hspecial false (by simp), rfl, rfl, by simp, rfl⟩
  | k + 2 =>
      obtain ⟨hname, hpath⟩ := cut_slashes false [] k
      have hslashes : ∃ n ≤ k, renderPath (.segments (readPath false (List.replicate k '/'))) =
          List.replicate n '/' := by
        cases k with
        | zero => exact ⟨0, Nat.le_refl 0, rfl⟩
        | succ k =>
            refine ⟨k + 1, Nat.le_refl _, ?_⟩
            rw [readPath_slashes, renderPath_replicate]
      obtain ⟨n, hn, hrender⟩ := hslashes
      rw [List.nil_append] at hname hpath
      have hread : readPlace scheme false (List.replicate (k + 2) '/') =
          .ok (some ⟨none, .domain "", none⟩,
            .segments (readPath false (List.replicate k '/'))) := by
        rw [List.replicate_succ, List.replicate_succ, readPlace_located hspecial, readLocated_eq,
          hspecial, hname, hpath, nameOf, List.takeWhile_nil, readAuthority_nil hspecial]
        rfl
      exact ⟨_, _, n, hread, rfl, rfl, by omega, hrender⟩

theorem readKnownPlace_grows (hfile : scheme ≠ "file") (hspecial : isSpecial scheme = true)
    (hlast : ∀ c ∈ cs.getLast?, isSlash true c = false)
    (h : readPlace scheme false (cs ++ List.replicate k '/') = .ok place) :
    ∃ written, readPlace scheme false (cs ++ "/write".toList) = .ok written ∧
      PlaceGrows k place written := by
  rw [readPlace_known hfile hspecial, List.dropWhile_append] at h
  rw [readPlace_known hfile hspecial, List.dropWhile_append]
  rcases List.eq_nil_or_concat' cs with rfl | ⟨front, c, rfl⟩
  · have hslashes : (List.replicate k '/').dropWhile (isSlash true) = [] := by
      simp [isSlash_slash]
    rw [List.dropWhile_nil, List.isEmpty_nil, if_pos rfl, hslashes, readLocated_eq, nameOf,
      List.takeWhile_nil, readAuthority_missing hspecial] at h
    cases h
  · have hc : isSlash true c = false := hlast c (by simp)
    have hne : ¬ ((front ++ [c]).dropWhile (isSlash true)).isEmpty := by
      rw [List.isEmpty_iff, List.dropWhile_eq_nil_iff]
      intro hall
      exact absurd (hall c (by simp)) (by simp [hc])
    rw [if_neg hne] at h ⊢
    refine readLocated_grows (fun d hd => ?_) (fun hother => absurd hspecial (by simp [hother])) h
    rw [hspecial]
    exact hlast d (mem_getLast?_of_dropWhile hd)

theorem readOtherPlace_grows (hspecial : isSpecial scheme = false)
    (hlast : ∀ c ∈ cs.getLast?, isSlash false c = false) (hat : cs ≠ "//@".toList)
    (h : readPlace scheme false (cs ++ List.replicate k '/') = .ok place) :
    ∃ written, readPlace scheme false (cs ++ "/write".toList) = .ok written ∧
      PlaceGrows k place written := by
  by_cases hhead : cs.head? = some '/'
  · obtain ⟨rest, rfl⟩ : ∃ rest, cs = '/' :: rest := by
      cases cs with
      | nil => simp at hhead
      | cons c rest => exact ⟨rest, by simpa using hhead⟩
    cases rest with
    | nil => exact absurd (hlast '/' rfl) (by decide)
    | cons d rest =>
        by_cases hd : d = '/'
        · subst hd
          rw [List.cons_append, List.cons_append, readPlace_located hspecial] at h ⊢
          refine readLocated_grows (fun c hc => ?_) (fun _ hrest => hat (by rw [hrest]; rfl)) h
          rw [hspecial]
          exact hlast c (mem_getLast?_cons (mem_getLast?_cons hc))
        · have hrooted : ∀ more, readPlace scheme false ('/' :: d :: rest ++ more) =
              .ok (none, .segments (readPath false ('/' :: d :: rest ++ more))) :=
            fun more => readPlace_rooted hspecial false (by simpa using hd)
          rw [hrooted] at h
          cases h
          exact ⟨_, hrooted _, rfl, rfl, (readPath_grows false hlast k).path⟩
  · cases cs with
    | nil =>
        obtain ⟨a, path, n, hread, hhost, hport, hn, hrender⟩ := readPlace_slashes hspecial k
        rw [List.nil_append, hread] at h
        cases h
        exact ⟨_, readPlace_rooted hspecial false (by decide), hhost.symm, hport.symm, [], n,
          hrender, rfl, hn, .inr (by simp)⟩
    | cons c rest =>
        have hc : c ≠ '/' := by simpa using hhead
        have hplain : ∀ more, readPlace scheme false (c :: rest ++ more) =
            .ok (none, .plain (String.ofList (encode [] (c :: rest ++ more)))) :=
          fun more => readPlace_plain hspecial false (by simpa using hc)
        have hend : (c :: rest).getLast? ≠ some '/' :=
          fun hslash => absurd (hlast '/' hslash) (by decide)
        rw [hplain] at h
        cases h
        exact ⟨_, hplain _, rfl, rfl, plain_grows hend k⟩

/-- The paths of a text that a slash is left at the end of and of the text with `/write` behind
it. -/
def PathDoubled (base written : UrlPath) : Prop :=
  ∃ front n, renderPath base = front ++ List.replicate n '/' ∧
    renderPath written = front ++ "//write".toList

theorem readLocated_doubled {c : Char} {written : Option Authority × UrlPath}
    (hc : isSlash (isSpecial scheme) c = true)
    (h : readLocated scheme false (cs ++ c :: List.replicate k '/') = .ok place)
    (hwritten : readLocated scheme false (cs ++ c :: "/write".toList) = .ok written) :
    PathDoubled place.2 written.2 := by
  obtain ⟨-, -, rfl⟩ := exists_of_readLocated h
  obtain ⟨-, -, rfl⟩ := exists_of_readLocated hwritten
  rw [(cut_slash _ cs hc _).2, (cut_slash _ cs hc _).2]
  obtain ⟨front, hbase, hpath⟩ := readPath_doubled hc k (pathOf (isSpecial scheme) cs)
  refine ⟨renderPath (.segments front), k + 1, ?_, ?_⟩
  · rw [hbase, renderPath_append, renderPath_replicate]
  · rw [hpath, renderPath_append]
    rfl

/-- Under a known scheme a slash that is left at the end of a text stays in front of `/write`. -/
theorem readPlace_doubled {c : Char} {written : Option Authority × UrlPath}
    (hfile : scheme ≠ "file") (hspecial : isSpecial scheme = true) (hc : isSlash true c = true)
    (h : readPlace scheme false (cs ++ c :: List.replicate k '/') = .ok place)
    (hwritten : readPlace scheme false (cs ++ c :: "/write".toList) = .ok written) :
    PathDoubled place.2 written.2 := by
  rw [readPlace_known hfile hspecial, List.dropWhile_append] at h hwritten
  split at h
  · next hempty =>
      have hslashes : (c :: List.replicate k '/').dropWhile (isSlash true) = [] := by
        simp [hc, isSlash_slash]
      obtain ⟨a, ha, -⟩ := exists_of_readLocated h
      rw [hslashes, nameOf, List.takeWhile_nil, readAuthority_missing hspecial] at ha
      cases ha
  · next hempty =>
      rw [if_neg hempty] at hwritten
      exact readLocated_doubled (by rwa [hspecial]) h hwritten

/-- Where `/write` stands in the place of slashes at the end, host and port stay. -/
theorem readPlace_grows (hlast : ∀ c ∈ cs.getLast?, isSlash (isSpecial scheme) c = false)
    (hat : isSpecial scheme = false → cs ≠ "//@".toList)
    (h : readPlace scheme false (cs ++ List.replicate k '/') = .ok place) :
    ∃ written, readPlace scheme false (cs ++ "/write".toList) = .ok written ∧
      PlaceGrows k place written := by
  by_cases hfile : scheme = "file"
  · subst hfile
    rw [readPlace_file] at h ⊢
    exact readFile_grows hlast h
  · cases hspecial : isSpecial scheme with
    | false => exact readOtherPlace_grows hspecial (by rwa [hspecial] at hlast) (hat hspecial) h
    | true => exact readKnownPlace_grows hfile hspecial (by rwa [hspecial] at hlast) h

end Place

end TopicBridge.Url
