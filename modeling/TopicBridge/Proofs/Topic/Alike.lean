import TopicBridge.Proofs.Topic.Parts
import TopicBridge.Proofs.Topic.Spelling

/-! # Names have no part in matching

Tokens that are alike but for the names of wildcards match the same topics and have the same levels
of them. Giving every wildcard a name of its own shows that the levels which a match leaves to the
tokens spell out the topic, whatever captures they become. -/

namespace TopicBridge

namespace Token

open Regex

/-- Tokens that differ in nothing but the name of a wildcard. -/
inductive Alike : Token → Token → Prop where
  | literal (text : String) : Alike (literal text) (literal text)
  | single (m n : String) : Alike (single m) (single n)
  | multi (m n : String) : Alike (multi m) (multi n)

theorem Alike.symm {t u : Token} (h : Alike t u) : Alike u t := by
  cases h with
  | literal text => exact .literal text
  | single m n => exact .single n m
  | multi m n => exact .multi n m

theorem Alike.isWildcard_eq {t u : Token} (h : Alike t u) : t.isWildcard = u.isWildcard := by
  cases h <;> rfl

theorem Alike.normalized_eq {t u : Token} (h : Alike t u) : t.normalized = u.normalized := by
  cases h <;> rfl

theorem Alike.expr_eq {t u : Token} (h : Alike t u) (n : Nat) (atEnd : Bool) :
    t.expr n atEnd = u.expr n atEnd := by
  cases h <;> rfl

theorem Alike.value?_eq {t u : Token} (h : Alike t u) (part : List Level) :
    t.value? part = u.value? part := by
  cases h <;> rfl

theorem Alike.fills {t u : Token} (h : Alike t u) {part : List Level} (hf : t.Fills part) :
    u.Fills part := by
  cases h with
  | literal text => exact hf
  | single m n =>
      cases hf with
      | single hl => exact .single hl
  | multi m n =>
      cases hf with
      | multi hls => exact .multi hls

section
variable {ts us : List Token}

theorem alike_symm (h : List.Forall₂ Alike ts us) : List.Forall₂ Alike us ts :=
  h.flip.imp fun _ _ => Alike.symm

/-! ## Matching -/

theorem endsAt_of_alike (h : List.Forall₂ Alike ts us) : endsAt ts = endsAt us := by
  cases h with
  | nil => rfl
  | cons htoken htail =>
      cases htail with
      | nil => cases htoken <;> rfl
      | cons _ _ => cases htoken <;> rfl

theorem exprFrom_of_alike (h : List.Forall₂ Alike ts us) (n : Nat) :
    exprFrom n ts = exprFrom n us := by
  induction h generalizing n with
  | nil => rfl
  | cons htoken htail ih =>
      rw [exprFrom, exprFrom, endsAt_of_alike htail, htoken.expr_eq, htoken.isWildcard_eq, ih]

theorem matcher_of_alike (h : List.Forall₂ Alike ts us) : matcher ts = matcher us := by
  rw [matcher, matcher, exprFrom_of_alike h]

theorem partsFrom_of_alike (h : List.Forall₂ Alike ts us) (topic : List Char) (found : Found)
    (n : Nat) : partsFrom topic found n ts = partsFrom topic found n us := by
  induction h generalizing n with
  | nil => rfl
  | cons htoken _ ih => cases htoken <;> simp only [partsFrom, ih]

theorem values_of_alike (h : List.Forall₂ Alike ts us) (parts : List (List Level)) :
    List.zipWith value? ts parts = List.zipWith value? us parts := by
  induction h generalizing parts with
  | nil => rfl
  | cons htoken _ ih =>
      cases parts with
      | nil => rfl
      | cons part parts => rw [List.zipWith_cons_cons, List.zipWith_cons_cons, htoken.value?_eq, ih]

theorem fills_of_alike (h : List.Forall₂ Alike ts us) {parts : List (List Level)}
    (hf : List.Forall₂ Fills ts parts) : List.Forall₂ Fills us parts := by
  induction h generalizing parts with
  | nil => exact hf
  | cons htoken _ ih =>
      cases hf with
      | cons hfill htail => exact .cons (htoken.fills hfill) (ih htail)

/-- A literal and a multi wildcard at the end stay what they are. -/
theorem exists_of_alike_append {text name : String}
    (h : List.Forall₂ Alike (ts ++ [literal text, multi name]) us) :
    ∃ front other, us = front ++ [literal text, multi other] := by
  induction ts generalizing us with
  | nil =>
      cases h with
      | cons hliteral htail =>
          cases hliteral
          cases htail with
          | cons hmulti hnil =>
              cases hmulti
              cases hnil
              exact ⟨[], _, rfl⟩
  | cons t ts ih =>
      cases h with
      | @cons _ u _ us _ htail =>
          obtain ⟨front, other, rfl⟩ := ih htail
          exact ⟨u :: front, other, rfl⟩

theorem Spells.of_alike (h : List.Forall₂ Alike ts us) {parts : List (List Level)}
    {text : List Char} (hs : Spells ts parts text) : Spells us parts text := by
  cases hs with
  | apart hs => exact .apart hs
  | glued hs =>
      obtain ⟨front, other, rfl⟩ := exists_of_alike_append h
      exact .glued hs

end

/-! ## What the tokens have spells out the topic

The captures of a pattern tell what its tokens have only if their names are all different, so the
wildcards are given such names first. -/

/-- A name for the wildcard at a position. -/
def label (k : Nat) : String := String.ofList (List.replicate (k + 1) 'x')

theorem label_inj {j k : Nat} (h : label j = label k) : j = k := by
  have hlen := congrArg (fun s => s.toList.length) h
  simpa [label] using hlen

theorem isEmpty_label (k : Nat) : (label k).isEmpty = false := by
  simp [label, String.isEmpty_eq_false_iff, ← String.toList_inj]

/-- Tokens with names of their own for the wildcards. -/
def relabel : Nat → List Token → List Token
  | _, [] => []
  | k, literal text :: ts => literal text :: relabel k ts
  | k, single _ :: ts => single (label k) :: relabel (k + 1) ts
  | k, multi _ :: ts => multi (label k) :: relabel (k + 1) ts

theorem alike_relabel (ts : List Token) (k : Nat) : List.Forall₂ Alike ts (relabel k ts) := by
  induction ts generalizing k with
  | nil => exact .nil
  | cons t ts ih =>
      cases t with
      | literal text => exact .cons (.literal text) (ih k)
      | single name => exact .cons (.single name _) (ih (k + 1))
      | multi name => exact .cons (.multi name _) (ih (k + 1))

theorem names_relabel (ts : List Token) (k : Nat) :
    (∀ name ∈ (relabel k ts).filterMap name?, ∃ j, k ≤ j ∧ name = label j) ∧
      ((relabel k ts).filterMap name?).Nodup := by
  induction ts generalizing k with
  | nil => simp [relabel]
  | cons t ts ih =>
      have hmore : ∀ t' : Token, t'.name? = some (label k) →
          (∀ name ∈ (t' :: relabel (k + 1) ts).filterMap name?, ∃ j, k ≤ j ∧ name = label j) ∧
            ((t' :: relabel (k + 1) ts).filterMap name?).Nodup := by
        intro t' hname
        obtain ⟨hlabels, hnodup⟩ := ih (k + 1)
        rw [List.filterMap_cons_some hname]
        refine ⟨List.forall_mem_cons.mpr ⟨⟨k, Nat.le_refl k, rfl⟩, ?_⟩,
          List.nodup_cons.mpr ⟨?_, hnodup⟩⟩
        · intro name hmem
          obtain ⟨j, hj, rfl⟩ := hlabels name hmem
          exact ⟨j, by omega, rfl⟩
        · intro hmem
          obtain ⟨j, hj, hlabel⟩ := hlabels _ hmem
          have := label_inj hlabel
          omega
      cases t with
      | literal text => exact ih k
      | single name => exact hmore (single (label k)) (by simp [name?, isEmpty_label])
      | multi name => exact hmore (multi (label k)) (by simp [name?, isEmpty_label])

theorem named_relabel (ts : List Token) (k : Nat) :
    ∀ t ∈ relabel k ts, t.isWildcard = true → t.name?.isSome = true := by
  induction ts generalizing k with
  | nil => simp [relabel]
  | cons t ts ih =>
      cases t with
      | literal text => exact List.forall_mem_cons.mpr ⟨fun h => (Bool.false_ne_true h).elim, ih k⟩
      | single name =>
          exact List.forall_mem_cons.mpr ⟨fun _ => by simp [name?, isEmpty_label], ih (k + 1)⟩
      | multi name =>
          exact List.forall_mem_cons.mpr ⟨fun _ => by simp [name?, isEmpty_label], ih (k + 1)⟩

theorem shaped_partsFrom (topic : List Char) (found : Found) (ts : List Token) (n : Nat) :
    List.Forall₂ Shaped ts (partsFrom topic found n ts) := by
  induction ts generalizing n with
  | nil => exact .nil
  | cons t ts ih =>
      cases t with
      | literal text => exact .cons (.literal text) (ih n)
      | single name => exact .cons (.single name _) (ih (n + 1))
      | multi name => exact .cons (.multi name _) (ih (n + 1))

theorem named_of_isSome {name : String}
    (h : (if name.isEmpty then none else some name).isSome = true) (value : Capture) :
    named name value = [(name, value)] := by
  unfold named
  split at h
  · cases h
  · next hne => exact if_neg hne

/-- Where all wildcards are named, the captures tell what each token has. -/
theorem eq_of_valuesOf_eq {ts : List Token} {parts others : List (List Level)}
    (hparts : List.Forall₂ Shaped ts parts) (hothers : List.Forall₂ Shaped ts others)
    (hnamed : ∀ t ∈ ts, t.isWildcard = true → t.name?.isSome = true)
    (h : valuesOf (ts.zip parts) = valuesOf (ts.zip others)) : parts = others := by
  induction hparts generalizing others with
  | nil =>
      cases hothers
      rfl
  | @cons t part ts parts hshape _ ih =>
      have hname := hnamed t List.mem_cons_self
      have hrest := fun {others} htail => @ih others htail fun u hu =>
        hnamed u (List.mem_cons_of_mem t hu)
      cases hothers with
      | @cons _ other _ _ hshape' htail =>
          rw [List.zip_cons_cons, List.zip_cons_cons] at h
          cases hshape with
          | literal text =>
              cases hshape'
              rw [valuesOf_literal, valuesOf_literal] at h
              rw [hrest htail h]
          | single name l =>
              cases hshape' with
              | single _ k =>
                  rw [valuesOf_single, valuesOf_single, named_of_isSome (hname rfl),
                    named_of_isSome (hname rfl)] at h
                  obtain ⟨hhead, hmore⟩ := List.cons.inj h
                  have hl : l = k := by simpa [String.ofList_inj] using hhead
                  rw [hl, hrest htail hmore]
          | multi name _ =>
              cases hshape' with
              | multi _ _ =>
                  rw [valuesOf_multi, valuesOf_multi, named_of_isSome (hname rfl),
                    named_of_isSome (hname rfl)] at h
                  obtain ⟨hhead, hmore⟩ := List.cons.inj h
                  have hpart : part = other := by
                    simpa [List.map_inj_right fun _ _ => String.ofList_inj.mp] using hhead
                  rw [hpart, hrest htail hmore]

end Token

/-- The levels that the tokens have of a topic are such as wildcards take, and with the literals
they spell it out. -/
theorem Pattern.spells_of_parts? {p : Pattern} {topic : String} {parts : List (List Level)}
    (h : p.parts? topic = some parts) :
    List.Forall₂ Token.Fills p.tokens parts ∧ Token.Spells p.tokens parts topic.toList := by
  have halike := Token.alike_relabel p.tokens 0
  -- the same pattern with wildcards that are all named, and differently
  obtain ⟨q, hq⟩ : ∃ q : Pattern, q = ⟨p.topic, Token.relabel 0 p.tokens, .empty⟩ := ⟨_, rfl⟩
  have hv : q.validators = .empty := by rw [hq]
  have htokens : q.tokens = Token.relabel 0 p.tokens := by rw [hq]
  rw [← htokens] at halike
  have hnamed := Token.named_relabel p.tokens 0
  have hnames := (Token.names_relabel p.tokens 0).2
  rw [← htokens] at hnamed hnames
  have hpartsq : q.parts? topic = some parts := by
    obtain ⟨found, hfound, rfl⟩ := Option.map_eq_some_iff.mp h
    rw [parts?, ← Token.matcher_of_alike halike, hfound, Option.map_some,
      Token.partsFrom_of_alike halike]
  obtain ⟨t, ht⟩ := exists_prefers_of_isMatch ((exists_parts?_iff q topic).mp ⟨_, hpartsq⟩)
  obtain ⟨others, hfills, hgathers, hspells⟩ :=
    @Token.exists_spelling q topic.toList q.tokens 1 (.front topic.toList) t hv List.drop_zero ht
  have hshaped : List.Forall₂ Token.Shaped q.tokens parts := by
    obtain ⟨found, -, rfl⟩ := Option.map_eq_some_iff.mp hpartsq
    exact Token.shaped_partsFrom topic.toList found q.tokens 1
  have hvalues : Token.valuesOf (q.tokens.zip parts) = Token.valuesOf (q.tokens.zip others) := by
    have hkeys : ((Token.valuesOf (q.tokens.zip parts)).map (·.1)).Nodup := by
      rw [Token.map_fst_valuesOf_of_shaped hshaped]
      exact hnames
    have hparse := parse_of_no_validators hv hpartsq
    rw [(parse_of_fills hfills hnames ⟨hgathers, ht⟩).2, Captures.ofList_of_nodup hkeys] at hparse
    injection hparse with hcaptures
    injection hcaptures with hentries
    exact hentries.symm
  have heq := Token.eq_of_valuesOf_eq hshaped (hfills.imp fun _ _ => Token.Fills.shaped) hnamed
    hvalues
  rw [← heq] at hfills hspells
  have hback := Token.alike_symm halike
  exact ⟨Token.fills_of_alike hback hfills, hspells.of_alike hback⟩

end TopicBridge
