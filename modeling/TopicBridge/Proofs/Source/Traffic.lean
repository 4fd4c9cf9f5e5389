import TopicBridge.Proofs.Source.Gate

/-! # Traffic at a gate

Any number of parties call a gate and its queue, and one party takes entries out. Their calls come
in any order, and calls that wait go on in any order, or never. What one move can do is said once,
by `StepDerivation`. -/

namespace TopicBridge

/-! ## Calls -/

/-- A call that may put an entry into the queue. -/
inductive Ask
  /-- A message under its full topic is brought to the gate. -/
  | accept (topic : String) (payload : List UInt8) (qos : Nat) (retain : Bool)
  /-- A message is put into the queue. -/
  | send (m : Message)
  | shutdown
  deriving DecidableEq, Repr

/-- Offers an entry to the queue of a gate. -/
def Gate.offer (g : Gate) (item : Item) : Gate.Admission :=
  match g.queue.push item with
  | .taken q => .queued { g with queue := q }
  | .waits => .waits
  | .closed => .refused .closed

theorem Gate.offer_of_room {g : Gate} (hopen : g.queue.isClosed = false)
    (hroom : g.queue.items.length < g.queue.capacity) (item : Item) :
    g.offer item = .queued { g with queue := g.queue.add item } := by
  simp [offer, Queue.push, Queue.add, hopen, hroom]

theorem Gate.offer_of_full {g : Gate} (hopen : g.queue.isClosed = false)
    (hfull : g.queue.capacity ≤ g.queue.items.length) (item : Item) : g.offer item = .waits := by
  simp [offer, Queue.push, hopen, Nat.not_lt.mpr hfull]

namespace Ask

/-- What becomes of a call when it is made. -/
def start (g : Gate) : Ask → Gate.Admission
  | accept topic payload qos retain => g.accept topic payload qos retain
  | send m => g.offer (.message m)
  | shutdown => g.offer .shutdown

/-- The entry that a call has for the queue. -/
def item (lead : String) : Ask → Item
  | accept topic payload qos retain =>
    .message ⟨String.ofList (topic.toList.drop lead.toList.length), payload, qos, retain⟩
  | send m => .message m
  | shutdown => .shutdown

/-- An entry is what a call brings: a message of a subscription as it was given, with its topic
behind the prefix. -/
def Brings (g : Gate) : Ask → Item → Prop
  | accept topic payload qos retain, item => ∃ inner, g.lead ++ inner = topic ∧
      g.isSubscribed inner = true ∧ item = .message ⟨inner, payload, qos, retain⟩
  | send m, item => item = .message m
  | shutdown, item => item = .shutdown

/-- More subscriptions do not turn a message away. -/
theorem Brings.mono {g g' : Gate} (hlead : g'.lead = g.lead) (hfilters : g.filters ⊆ g'.filters)
    {a : Ask} {item : Item} (h : a.Brings g item) : a.Brings g' item := by
  cases a with
  | accept topic payload qos retain =>
      obtain ⟨inner, htopic, hs, hitem⟩ := h
      obtain ⟨filter, hmem, hselects⟩ := List.any_eq_true.mp hs
      have hs' : g'.isSubscribed inner := List.any_eq_true.mpr ⟨filter, hfilters hmem, hselects⟩
      exact ⟨inner, hlead ▸ htopic, hs', hitem⟩
  | send m => exact h
  | shutdown => exact h

/-- A call for a message that no subscription is for. -/
def Unsubscribed (g : Gate) : Ask → Prop
  | accept topic .. => ∃ inner, g.lead ++ inner = topic ∧ g.isSubscribed inner = false
  | _ => False

/-- A call for a message outside the prefix. -/
def Outside (g : Gate) (cause : SourceFault) : Ask → Prop
  | accept topic .. => (∀ inner, g.lead ++ inner ≠ topic) ∧ cause = .outsidePrefix topic g.lead
  | _ => False

/-- What becomes of a call when it is made, while entries are taken out. -/
inductive StartDerivation (g : Gate) (a : Ask) : Gate.Admission → Prop where
  | outside {cause} (h : a.Outside g cause) : StartDerivation g a (.refused cause)
  | unsubscribed (h : a.Unsubscribed g) : StartDerivation g a .unsubscribed
  | waits (h : a.Brings g (a.item g.lead)) : StartDerivation g a .waits
  | queued (h : a.Brings g (a.item g.lead))
      (hroom : g.queue.items.length < g.queue.capacity) :
      StartDerivation g a (.queued { g with queue := g.queue.add (a.item g.lead) })

theorem item_accept (lead inner : String) (payload : List UInt8) (qos : Nat) (retain : Bool) :
    (accept (lead ++ inner) payload qos retain).item lead =
      .message ⟨inner, payload, qos, retain⟩ := by
  rw [item, String.toList_append, List.drop_left, String.ofList_toList]

theorem StartDerivation.of_offer {g : Gate} {a : Ask} (hopen : g.queue.isClosed = false)
    (h : a.Brings g (a.item g.lead)) : StartDerivation g a (g.offer (a.item g.lead)) := by
  by_cases hroom : g.queue.items.length < g.queue.capacity
  · rw [Gate.offer_of_room hopen hroom]
    exact .queued h hroom
  · rw [Gate.offer_of_full hopen (Nat.le_of_not_lt hroom)]
    exact .waits h

theorem start_derivation {g : Gate} (hopen : g.queue.isClosed = false) (a : Ask) :
    StartDerivation g a (a.start g) := by
  cases a with
  | accept topic payload qos retain =>
      have hcases := g.accept_derivation topic payload qos retain
      rw [start]
      generalize g.accept topic payload qos retain = admission at hcases ⊢
      cases hcases with
      | outside h => exact .outside ⟨fun inner heq => h inner heq.symm, rfl⟩
      | unsubscribed h hs => exact .unsubscribed ⟨_, h.symm, hs⟩
      | closed h hs hclosed => simp [hopen] at hclosed
      | @waits inner h hs _ hfull =>
          subst h
          exact .waits ⟨inner, rfl, hs, item_accept _ _ _ _ _⟩
      | @queued inner h hs _ hroom =>
          subst h
          rw [← item_accept g.lead inner payload qos retain]
          exact .queued ⟨inner, rfl, hs, item_accept _ _ _ _ _⟩ hroom
  | send m => exact .of_offer hopen rfl
  | shutdown => exact .of_offer hopen rfl

end Ask

/-! ## Moves -/

/-- A gate and the calls that wait for room in its queue. -/
structure Traffic where
  gate : Gate
  waiting : List Ask
  deriving DecidableEq, Repr

namespace Traffic

/-- What one of the parties does. -/
inductive Move
  | subscribe (filter : String)
  /-- A call is made. It may have to wait behind others even if there is room. -/
  | ask (a : Ask) (held : Bool)
  /-- A call that waits is tried again. -/
  | resume (i : Nat)
  /-- A call that waits is given up. -/
  | cancel (i : Nat)
  /-- The first entry is taken out. -/
  | receive
  deriving DecidableEq, Repr

/-- What comes of a move. -/
inductive Effect
  | subscribed (filter : String)
  | notSubscribed (filter : String) (cause : SourceFault)
  /-- A call comes back, and whether it put its entry into the queue. -/
  | answered (a : Ask) (result : Except SourceFault Bool)
  | waits (a : Ask)
  | cancelled (a : Ask)
  | received (item : Item)
  | nothing
  deriving DecidableEq, Repr

/-- The traffic after a move, and what came of it. -/
def step (t : Traffic) : Move → Traffic × Effect
  | .subscribe filter =>
    match t.gate.subscribe filter with
    | .ok g => ({ t with gate := g }, .subscribed filter)
    | .error cause => (t, .notSubscribed filter cause)
  | .ask a held =>
    match a.start t.gate with
    | .refused cause => (t, .answered a (.error cause))
    | .unsubscribed => (t, .answered a (.ok false))
    | .waits => ({ t with waiting := t.waiting ++ [a] }, .waits a)
    | .queued g =>
      if held then ({ t with waiting := t.waiting ++ [a] }, .waits a)
      else ({ t with gate := g }, .answered a (.ok true))
  | .resume i =>
    match t.waiting[i]? with
    | none => (t, .nothing)
    | some a =>
      match t.gate.offer (a.item t.gate.lead) with
      | .queued g => (⟨g, t.waiting.eraseIdx i⟩, .answered a (.ok true))
      | .refused cause =>
        ({ t with waiting := t.waiting.eraseIdx i }, .answered a (.error cause))
      | _ => (t, .waits a)
  | .cancel i =>
    match t.waiting[i]? with
    | none => (t, .nothing)
    | some a => ({ t with waiting := t.waiting.eraseIdx i }, .cancelled a)
  | .receive =>
    match t.gate.queue.pop? with
    | none => (t, .nothing)
    | some (item, q) => ({ t with gate := { t.gate with queue := q } }, .received item)

/-- All that a move can do while the consumer is there. -/
inductive StepDerivation (t : Traffic) : Move → Traffic × Effect → Prop where
  | subscribed {filter} (h : Filter.isValid filter) :
      StepDerivation t (.subscribe filter)
        ({ t with gate := t.gate.withFilter filter }, .subscribed filter)
  | notSubscribed {filter} (h : ¬ Filter.isValid filter) :
      StepDerivation t (.subscribe filter) (t, .notSubscribed filter (.invalidFilter filter))
  | outside {a held cause} (h : a.Outside t.gate cause) :
      StepDerivation t (.ask a held) (t, .answered a (.error cause))
  | unsubscribed {a held} (h : a.Unsubscribed t.gate) :
      StepDerivation t (.ask a held) (t, .answered a (.ok false))
  | suspended {a held} (h : a.Brings t.gate (a.item t.gate.lead)) :
      StepDerivation t (.ask a held) ({ t with waiting := t.waiting ++ [a] }, .waits a)
  | queued {a} (h : a.Brings t.gate (a.item t.gate.lead))
      (hroom : t.gate.queue.items.length < t.gate.queue.capacity) :
      StepDerivation t (.ask a false)
        ({ t with gate := { t.gate with queue := t.gate.queue.add (a.item t.gate.lead) } },
          .answered a (.ok true))
  | resumed {i a} (h : t.waiting[i]? = some a)
      (hroom : t.gate.queue.items.length < t.gate.queue.capacity) :
      StepDerivation t (.resume i)
        (⟨{ t.gate with queue := t.gate.queue.add (a.item t.gate.lead) }, t.waiting.eraseIdx i⟩,
          .answered a (.ok true))
  | stillWaits {i a} (h : t.waiting[i]? = some a) : StepDerivation t (.resume i) (t, .waits a)
  | cancelled {i a} (h : t.waiting[i]? = some a) :
      StepDerivation t (.cancel i) ({ t with waiting := t.waiting.eraseIdx i }, .cancelled a)
  | received {item rest} (h : t.gate.queue.items = item :: rest) :
      StepDerivation t .receive
        ({ t with gate := { t.gate with queue := { t.gate.queue with items := rest } } },
          .received item)
  /-- There is nothing to take out, or no such call. -/
  | nothing {m} (h : ∀ a held, m ≠ .ask a held) : StepDerivation t m (t, .nothing)

theorem step_derivation {t : Traffic} (hopen : t.gate.queue.isClosed = false) (m : Move) :
    StepDerivation t m (t.step m) := by
  cases m with
  | subscribe filter =>
      rw [step]
      by_cases h : Filter.isValid filter
      · rw [Gate.subscribe_of_valid h]
        exact .subscribed h
      · rw [Gate.subscribe_of_not_valid h]
        exact .notSubscribed h
  | ask a held =>
      have hstart := a.start_derivation hopen
      rw [step]
      generalize a.start t.gate = admission at hstart ⊢
      cases hstart with
      | outside h => exact .outside h
      | unsubscribed h => exact .unsubscribed h
      | waits h => exact .suspended h
      | queued h hroom =>
          cases held with
          | true => exact .suspended h
          | false => exact .queued h hroom
  | resume i =>
      rw [step]
      cases h : t.waiting[i]? with
      | none => exact .nothing (by simp)
      | some a =>
          simp only
          by_cases hroom : t.gate.queue.items.length < t.gate.queue.capacity
          · rw [Gate.offer_of_room hopen hroom]
            exact .resumed h hroom
          · rw [Gate.offer_of_full hopen (Nat.le_of_not_lt hroom)]
            exact .stillWaits h
  | cancel i =>
      rw [step]
      cases h : t.waiting[i]? with
      | none => exact .nothing (by simp)
      | some a => exact .cancelled h
  | receive =>
      rw [step, Queue.pop?]
      cases h : t.gate.queue.items with
      | nil => exact .nothing (by simp)
      | cons item rest => exact .received h

end Traffic
end TopicBridge
