import Mathlib.Data.List.Perm.Basic
import Mathlib.Data.List.Forall2
import TopicBridge.Proofs.Http.Publish
import TopicBridge.Proofs.Source.Traffic

/-! # Histories of traffic

What a run of moves leaves at the gate is accounted for by what came of them: which subscriptions
were taken, which entries calls put into the queue and which ones were taken out. -/

namespace TopicBridge.Traffic

/-- The traffic after moves, and what came of them. -/
def run (t : Traffic) (moves : List Move) : Traffic × List Effect :=
  moves.foldl (fun (t, effects) m => ((t.step m).1, effects ++ [(t.step m).2])) (t, [])

theorem run_append_singleton (t : Traffic) (moves : List Move) (m : Move) :
    t.run (moves ++ [m]) =
      (((t.run moves).1.step m).1, (t.run moves).2 ++ [((t.run moves).1.step m).2]) := by
  rw [run, List.foldl_append]
  rfl

/-! ## What came of moves -/

/-- The subscription that was taken. -/
def Effect.subscription? : Effect → Option String
  | subscribed filter => some filter
  | _ => none

/-- The call that put its entry into the queue. -/
def Effect.enqueued? : Effect → Option Ask
  | answered a (.ok true) => some a
  | _ => none

/-- The entry that was taken out. -/
def Effect.received? : Effect → Option Item
  | received item => some item
  | _ => none

/-- The call that came to an end. -/
def Effect.ended? : Effect → Option Ask
  | answered a _ => some a
  | cancelled a => some a
  | _ => none

/-- The call that is made. -/
def Move.asked? : Move → Option Ask
  | ask a _ => some a
  | _ => none

/-- What the effect of a move says of the gate before and after it. -/
def Effect.Explains (before after : Gate) : Effect → Prop
  | subscribed filter => Filter.isValid filter ∧ after = before.withFilter filter
  | notSubscribed filter cause =>
    ¬ Filter.isValid filter ∧ cause = .invalidFilter filter ∧ after = before
  | answered a (.ok true) => before.queue.items.length < before.queue.capacity ∧
      ∃ item, a.Brings before item ∧ after = { before with queue := before.queue.add item }
  | answered a (.ok false) => a.Unsubscribed before ∧ after = before
  | answered a (.error cause) => a.Outside before cause ∧ after = before
  | received item =>
    before = { after with queue := { after.queue with items := item :: after.queue.items } }
  | waits _ => after = before
  | cancelled _ => after = before
  | nothing => after = before

/-! ## The gate -/

/-- A gate is accounted for by what came of moves. -/
structure GateAccount (lead : String) (capacity : Nat) (effects : List Effect) (g : Gate) :
    Prop where
  lead_eq : g.lead = lead
  capacity_eq : g.queue.capacity = capacity
  alive : g.queue.isClosed = false
  room : g.queue.items.length ≤ g.queue.capacity
  subscribed : g.Subscribed (effects.filterMap Effect.subscription?)
  valid : ∀ filter ∈ effects.filterMap Effect.subscription?, Filter.isValid filter
  fifo : List.Forall₂ (Ask.Brings g) (effects.filterMap Effect.enqueued?)
    (effects.filterMap Effect.received? ++ g.queue.items)

variable {lead : String} {capacity : Nat} {effects : List Effect}

theorem filterMap_append_singleton {α β : Type} (f : α → Option β) (as : List α) (a : α) :
    (as ++ [a]).filterMap f = as.filterMap f ++ (f a).toList := by
  rw [List.filterMap_append, List.filterMap_cons, List.filterMap_nil]
  cases f a <;> rfl

namespace GateAccount

/-- What one more effect has to account for. -/
theorem extend {g g' : Gate} (h : GateAccount lead capacity effects g) (e : Effect)
    (hlead : g'.lead = g.lead) (hfilters : g.filters ⊆ g'.filters)
    (hcapacity : g'.queue.capacity = g.queue.capacity)
    (halive : g'.queue.isClosed = g.queue.isClosed)
    (hroom : g'.queue.items.length ≤ g'.queue.capacity)
    (hsubscribed :
      g'.Subscribed (effects.filterMap Effect.subscription? ++ e.subscription?.toList))
    (hvalid : ∀ filter ∈ e.subscription?.toList, Filter.isValid filter)
    (hfifo : List.Forall₂ (Ask.Brings g)
      (effects.filterMap Effect.enqueued? ++ e.enqueued?.toList)
      (effects.filterMap Effect.received? ++ e.received?.toList ++ g'.queue.items)) :
    GateAccount lead capacity (effects ++ [e]) g' where
  lead_eq := hlead.trans h.lead_eq
  capacity_eq := hcapacity.trans h.capacity_eq
  alive := halive.trans h.alive
  room := hroom
  subscribed := by rwa [filterMap_append_singleton]
  valid := by
    rw [filterMap_append_singleton, List.forall_mem_append]
    exact ⟨h.valid, hvalid⟩
  fifo := by
    rw [filterMap_append_singleton, filterMap_append_singleton]
    exact hfifo.imp fun a item hb => hb.mono hlead hfilters

/-- An effect that neither subscribes nor moves an entry leaves the account alone. -/
theorem unchanged {g : Gate} (h : GateAccount lead capacity effects g) {e : Effect}
    (hs : e.subscription? = none) (hq : e.enqueued? = none) (hr : e.received? = none) :
    GateAccount lead capacity (effects ++ [e]) g := by
  refine h.extend e rfl (List.Subset.refl _) rfl rfl h.room ?_ ?_ ?_
  · simpa [hs] using h.subscribed
  · simp [hs]
  · simpa [hq, hr] using h.fifo

theorem withFilter {g : Gate} (h : GateAccount lead capacity effects g) {filter : String}
    (hfilter : Filter.isValid filter) :
    GateAccount lead capacity (effects ++ [.subscribed filter]) (g.withFilter filter) := by
  refine h.extend _ rfl (g.filters_subset_withFilter filter) rfl rfl h.room
    (h.subscribed.withFilter filter) ?_ ?_
  · simpa [Effect.subscription?] using hfilter
  · simpa [Effect.enqueued?, Effect.received?, Gate.withFilter] using h.fifo

theorem add {g : Gate} (h : GateAccount lead capacity effects g) {a : Ask} {item : Item}
    (ha : a.Brings g item) (hroom : g.queue.items.length < g.queue.capacity) :
    GateAccount lead capacity (effects ++ [.answered a (.ok true)])
      { g with queue := g.queue.add item } := by
  refine h.extend _ rfl (List.Subset.refl _) rfl rfl ?_ ?_ ?_ ?_
  · rw [Queue.add, List.length_append]
    exact hroom
  · simpa [Effect.subscription?, Gate.Subscribed] using h.subscribed
  · simp [Effect.subscription?]
  · have hboth := List.rel_append h.fifo (List.Forall₂.cons ha .nil)
    simpa [Effect.enqueued?, Effect.received?, Queue.add] using hboth

theorem take {g g' : Gate} (h : GateAccount lead capacity effects g) {item : Item}
    (hg : g = { g' with queue := { g'.queue with items := item :: g'.queue.items } }) :
    GateAccount lead capacity (effects ++ [.received item]) g' := by
  subst hg
  refine h.extend _ rfl (List.Subset.refl _) rfl rfl (Nat.le_of_succ_le h.room) ?_ ?_ ?_
  · simpa [Effect.subscription?, Gate.Subscribed] using h.subscribed
  · simp [Effect.subscription?]
  · simpa [Effect.enqueued?, Effect.received?] using h.fifo

theorem step {g g' : Gate} (h : GateAccount lead capacity effects g) {e : Effect}
    (he : e.Explains g g') : GateAccount lead capacity (effects ++ [e]) g' := by
  cases e with
  | subscribed filter =>
      obtain ⟨hfilter, rfl⟩ := he
      exact h.withFilter hfilter
  | notSubscribed filter cause =>
      obtain ⟨-, -, rfl⟩ := he
      exact h.unchanged rfl rfl rfl
  | answered a result =>
      match result with
      | .ok true =>
          obtain ⟨hroom, item, ha, rfl⟩ := he
          exact h.add ha hroom
      | .ok false =>
          obtain ⟨-, rfl⟩ := he
          exact h.unchanged rfl rfl rfl
      | .error cause =>
          obtain ⟨-, rfl⟩ := he
          exact h.unchanged rfl rfl rfl
  | received item => exact h.take he
  | waits a =>
      cases he
      exact h.unchanged rfl rfl rfl
  | cancelled a =>
      cases he
      exact h.unchanged rfl rfl rfl
  | nothing =>
      cases he
      exact h.unchanged rfl rfl rfl

end GateAccount

/-! ## Calls -/

/-- Calls that wait have an entry, and calls that were made came to an end or wait. -/
structure CallAccount (moves : List Move) (effects : List Effect) (t : Traffic) : Prop where
  brings : ∀ a ∈ t.waiting, a.Brings t.gate (a.item t.gate.lead)
  calls : (moves.filterMap Move.asked?).Perm (effects.filterMap Effect.ended? ++ t.waiting)

theorem explains_step {t : Traffic} (hopen : t.gate.queue.isClosed = false)
    (hbrings : ∀ a ∈ t.waiting, a.Brings t.gate (a.item t.gate.lead)) (m : Move) :
    (t.step m).2.Explains t.gate (t.step m).1.gate := by
  have hstep := step_derivation hopen m
  generalize t.step m = after at hstep ⊢
  cases hstep with
  | subscribed hvalid => exact ⟨hvalid, rfl⟩
  | notSubscribed hvalid => exact ⟨hvalid, rfl, rfl⟩
  | outside ha => exact ⟨ha, rfl⟩
  | unsubscribed ha => exact ⟨ha, rfl⟩
  | suspended ha => rfl
  | queued ha hroom => exact ⟨hroom, _, ha, rfl⟩
  | resumed hi hroom => exact ⟨hroom, _, hbrings _ (List.mem_of_getElem? hi), rfl⟩
  | stillWaits hi => rfl
  | cancelled hi => rfl
  | received hitems => simp only [Effect.Explains, ← hitems]
  | nothing hm => rfl

/-- A call that leaves the waiting ones was among them. -/
theorem perm_eraseIdx {as : List Ask} {i : Nat} {a : Ask} (h : as[i]? = some a) :
    (a :: as.eraseIdx i).Perm as := by
  obtain ⟨hi, rfl⟩ := List.getElem?_eq_some_iff.mp h
  exact List.getElem_cons_eraseIdx_perm hi

/-- A call that is made comes to an end or waits, and one that waits comes to an end or waits
on. -/
theorem calls_step {t : Traffic} (hopen : t.gate.queue.isClosed = false) (m : Move) :
    (m.asked?.toList ++ t.waiting).Perm
      ((t.step m).2.ended?.toList ++ (t.step m).1.waiting) := by
  have hstep := step_derivation hopen m
  generalize t.step m = after at hstep ⊢
  cases hstep with
  | suspended ha => exact List.perm_append_comm
  | resumed hi hroom => exact (perm_eraseIdx hi).symm
  | cancelled hi => exact (perm_eraseIdx hi).symm
  | nothing hm =>
      have hnone : m.asked? = none := by
        cases m with
        | ask a held => exact absurd rfl (hm a held)
        | subscribe | resume | cancel | receive => rfl
      rw [hnone]
      rfl
  | subscribed | notSubscribed | outside | unsubscribed | queued | stillWaits | received =>
      exact List.Perm.refl _

theorem brings_step {t : Traffic} (hopen : t.gate.queue.isClosed = false)
    (hbrings : ∀ a ∈ t.waiting, a.Brings t.gate (a.item t.gate.lead)) (m : Move) :
    ∀ a ∈ (t.step m).1.waiting,
      a.Brings (t.step m).1.gate (a.item (t.step m).1.gate.lead) := by
  have hstep := step_derivation hopen m
  generalize t.step m = after at hstep ⊢
  cases hstep with
  | @subscribed filter hvalid =>
      intro a hmem
      have hlead : (t.gate.withFilter filter).lead = t.gate.lead := rfl
      exact (hbrings a hmem).mono hlead (t.gate.filters_subset_withFilter filter)
  | suspended ha =>
      intro a hmem
      rcases List.mem_append.mp hmem with hmem | hmem
      · exact hbrings a hmem
      · rw [List.mem_singleton.mp hmem]
        exact ha
  | resumed hi hroom => exact fun a hmem => hbrings a (List.mem_of_mem_eraseIdx hmem)
  | cancelled hi => exact fun a hmem => hbrings a (List.mem_of_mem_eraseIdx hmem)
  | notSubscribed | outside | unsubscribed | queued | stillWaits | received | nothing =>
      exact hbrings

theorem CallAccount.step {moves : List Move} {t : Traffic} (h : CallAccount moves effects t)
    (hopen : t.gate.queue.isClosed = false) (m : Move) :
    CallAccount (moves ++ [m]) (effects ++ [(t.step m).2]) (t.step m).1 where
  brings := brings_step hopen h.brings m
  calls := by
    have hmade := h.calls.append_right m.asked?.toList
    have hstep := (calls_step hopen m).append_left (effects.filterMap Effect.ended?)
    rw [filterMap_append_singleton, filterMap_append_singleton, List.append_assoc]
    rw [List.append_assoc] at hmade
    exact hmade.trans ((List.perm_append_comm.append_left _).trans hstep)

/-! ## Runs -/

/-- The gate without subscriptions in front of an empty queue, and nobody waits. -/
def opened (topicPrefix : String) (capacity : Nat) : Traffic :=
  ⟨.opened topicPrefix (.bounded capacity), []⟩

theorem run_accounts (topicPrefix : String) (capacity : Nat) (moves : List Move) :
    let r := (opened topicPrefix capacity).run moves
    GateAccount (Config.closePrefix topicPrefix) capacity r.2 r.1.gate ∧
      CallAccount moves r.2 r.1 := by
  induction moves using List.reverseRecOn with
  | nil =>
      have hlead : (opened topicPrefix capacity).gate.lead = Config.closePrefix topicPrefix :=
        Gate.leadOf_eq topicPrefix
      refine ⟨⟨hlead, rfl, rfl, Nat.zero_le _, rfl, ?_, .nil⟩, ⟨?_, .refl _⟩⟩
      · simp [run]
      · simp [run, opened]
  | append_singleton moves m ih =>
      obtain ⟨hgate, hcalls⟩ := ih
      rw [run_append_singleton]
      exact ⟨hgate.step (explains_step hgate.alive hcalls.brings m), hcalls.step hgate.alive m⟩

/-! ## Publishing -/

/-- The call that a publication makes. -/
def publication (p : Http.Publication) : Ask :=
  .accept p.topic (Text.Utf8.encode p.payload) p.qos p.retain

/-- A publication is answered by what its call comes back with, also if it had to wait. -/
theorem answer_of_explains {s : Http.Service} {p : Http.Publication}
    {result : Except SourceFault Bool} {g : Gate} (hopen : s.gate.queue.isClosed = false)
    (h : Effect.Explains s.gate g (.answered (publication p) result)) :
    Http.AnswerSpec s p result { s with gate := g } := by
  match result with
  | .ok true =>
      obtain ⟨-, item, ⟨inner, htopic, hs, rfl⟩, rfl⟩ := h
      exact .of_queued htopic.symm hs hopen
  | .ok false =>
      obtain ⟨⟨inner, htopic, hs⟩, rfl⟩ := h
      exact .of_unsubscribed htopic.symm hs
  | .error cause =>
      obtain ⟨⟨houtside, rfl⟩, rfl⟩ := h
      exact .of_outside fun inner htopic => houtside inner htopic.symm

/-- The traffic at a gate after moves, while the consumer is there. -/
structure TrafficSpec (topicPrefix : String) (capacity : Nat) (moves : List Move) (t : Traffic)
    (effects : List Effect) : Prop where
  lead : t.gate.lead = Config.closePrefix topicPrefix
  alive : t.gate.queue.isClosed = false
  filters : t.gate.filters = (effects.filterMap Effect.subscription?).eraseDups
  distinct : t.gate.filters.Nodup
  valid : ∀ filter ∈ t.gate.filters, Filter.isValid filter
  room : t.gate.queue.items.length + t.gate.queue.free = capacity
  /-- What was taken out and what is queued are the entries of the calls that put one in. -/
  fifo : List.Forall₂ (Ask.Brings t.gate) (effects.filterMap Effect.enqueued?)
    (effects.filterMap Effect.received? ++ t.gate.queue.items)
  calls : (moves.filterMap Move.asked?).Perm (effects.filterMap Effect.ended? ++ t.waiting)
  /-- What a message meets at the gate. -/
  accept : ∀ topic payload qos retain,
    t.gate.AdmissionDerivation topic payload qos retain (t.gate.accept topic payload qos retain)
  /-- What a move does, and what comes of it. -/
  moved : ∀ m, StepDerivation t m (t.step m)
  /-- What came of a move is all that it did to the gate. -/
  next : ∀ m, (t.step m).2.Explains t.gate (t.step m).1.gate
  published : ∀ m p result, (t.step m).2 = .answered (publication p) result →
    ∀ s : Http.Service, s.gate = t.gate →
      Http.AnswerSpec s p result { s with gate := (t.step m).1.gate }
  /-- At any gate, also one whose consumer is gone. -/
  handled : ∀ (s : Http.Service) r p, Http.readPublication r = .ok p →
    Http.PublishSpec s p (s.publish r)

theorem traffic_spec (topicPrefix : String) (capacity : Nat) (moves : List Move) :
    TrafficSpec topicPrefix capacity moves ((opened topicPrefix capacity).run moves).1
      ((opened topicPrefix capacity).run moves).2 := by
  obtain ⟨hgate, hcalls⟩ := run_accounts topicPrefix capacity moves
  have hnext := explains_step hgate.alive hcalls.brings
  refine ⟨hgate.lead_eq, hgate.alive, hgate.subscribed, ?_, ?_, ?_, hgate.fifo, hcalls.calls,
    Gate.accept_derivation _, step_derivation hgate.alive, hnext, ?_, ?_⟩
  · rw [hgate.subscribed]
    exact nodup_eraseDups _
  · intro filter hmem
    rw [hgate.subscribed, List.mem_eraseDups] at hmem
    exact hgate.valid filter hmem
  · rw [Queue.free, Nat.add_sub_cancel' hgate.room, hgate.capacity_eq]
  · intro m p result heffect s hs
    have hexplains := hnext m
    rw [heffect, ← hs] at hexplains
    exact answer_of_explains (hs ▸ hgate.alive) hexplains
  · exact fun s r p hp => Http.publish_outcome hp

/- Two messages come to a queue with room for one. -/
example : ((opened "p" 1).run [.subscribe "+", .ask (.accept "p/a" [] 0 false) false,
      .ask (.accept "p/b" [] 0 false) false, .receive, .resume 0]).2 =
    [.subscribed "+", .answered (.accept "p/a" [] 0 false) (.ok true),
      .waits (.accept "p/b" [] 0 false), .received (.message ⟨"a", [], 0, false⟩),
      .answered (.accept "p/b" [] 0 false) (.ok true)] := by
  decide +kernel

end TopicBridge.Traffic
