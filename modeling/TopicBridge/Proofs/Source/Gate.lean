import TopicBridge.Proofs.FirstOccurrence
import TopicBridge.Source.Gate

/-! # What a gate does

A gate has the valid filters among those it was asked to subscribe to, each once and in the order in
which they came first. A message that is let in stands at the end of the queue. -/

namespace TopicBridge

namespace Queue

/-- The queue with an entry behind the others. -/
def add (q : Queue) (item : Item) : Queue := { q with items := q.items ++ [item] }

/-- What becomes of an entry that is offered. -/
inductive OfferDerivation (q : Queue) (item : Item) : Offer Queue → Prop where
  | closed (h : q.isClosed = true) : OfferDerivation q item .closed
  | taken (h : q.isClosed = false) (hroom : q.items.length < q.capacity) :
      OfferDerivation q item (.taken (q.add item))
  | waits (h : q.isClosed = false) (hfull : q.capacity ≤ q.items.length) :
      OfferDerivation q item .waits

theorem push_derivation (q : Queue) (item : Item) : OfferDerivation q item (q.push item) := by
  rw [push]
  split
  · next h => exact .closed h
  · next h =>
      have hopen : q.isClosed = false := by simpa using h
      split
      · next hroom => exact .taken hopen hroom
      · next hroom => exact .waits hopen (Nat.le_of_not_lt hroom)

end Queue

namespace Gate

/-! ## Prefixes -/

/-- A gate closes a prefix as a configuration does. -/
theorem leadOf_eq (topicPrefix : String) : leadOf topicPrefix = Config.closePrefix topicPrefix := by
  have hpush : topicPrefix.push '/' = topicPrefix ++ "/" := by
    rw [String.ext_iff, String.toList_push, String.toList_append]
    rfl
  rw [leadOf, Config.closePrefix, hpush]
  by_cases hempty : topicPrefix.isEmpty = true
  · simp [hempty]
  · by_cases hlast : topicPrefix.toList.getLast? = some '/'
    · simp [hlast]
    · simp [hempty, hlast]

/-! ## Subscriptions -/

/-- The gate with a filter, which is added if it is not there. -/
def withFilter (g : Gate) (filter : String) : Gate :=
  { g with filters := if filter ∈ g.filters then g.filters else g.filters ++ [filter] }

theorem filters_subset_withFilter (g : Gate) (filter : String) :
    g.filters ⊆ (g.withFilter filter).filters := by
  rw [withFilter]
  split
  · exact List.Subset.refl _
  · exact List.subset_append_left _ _

theorem subscribe_of_valid {filter : String} (h : Filter.isValid filter) (g : Gate) :
    g.subscribe filter = .ok (g.withFilter filter) := by
  rw [subscribe, if_neg (by simp [h]), withFilter]
  split
  · next hmem => rw [if_pos (List.contains_iff_mem.mp hmem)]
  · next hmem => rw [if_neg (fun hin => hmem (List.contains_iff_mem.mpr hin))]

theorem subscribe_of_not_valid {filter : String} (h : ¬ Filter.isValid filter) (g : Gate) :
    g.subscribe filter = .error (.invalidFilter filter) := by
  rw [subscribe, if_pos (by simpa using h)]

/-- The filters of a gate are those of the subscriptions it was asked for. -/
def Subscribed (g : Gate) (asked : List String) : Prop := g.filters = asked.eraseDups

theorem Subscribed.withFilter {g : Gate} {asked : List String} (h : g.Subscribed asked)
    (filter : String) : (g.withFilter filter).Subscribed (asked ++ [filter]) := by
  have hmem : filter ∈ g.filters ↔ filter ∈ asked := by
    rw [h, List.mem_eraseDups]
  rw [Subscribed, eraseDups_append_singleton, ← h, Gate.withFilter]
  simp only [hmem]

theorem subscribeAll_spec {g : Gate} {asked : List String} (h : g.Subscribed asked)
    (filters : List String) :
    (g.subscribeAll filters).Subscribed (asked ++ filters.filter Filter.isValid) ∧
      (g.subscribeAll filters).lead = g.lead ∧ (g.subscribeAll filters).queue = g.queue := by
  induction filters generalizing g asked with
  | nil => simpa [subscribeAll] using h
  | cons filter filters ih =>
      have hstep : g.subscribeAll (filter :: filters) =
          (((g.subscribe filter).toOption).getD g).subscribeAll filters := rfl
      rw [hstep]
      by_cases hvalid : Filter.isValid filter
      · have hrest := ih (h.withFilter filter)
        rw [List.append_assoc] at hrest
        rw [subscribe_of_valid hvalid, List.filter_cons_of_pos hvalid]
        exact hrest
      · rw [subscribe_of_not_valid hvalid, List.filter_cons_of_neg hvalid]
        exact ih h

/-! ## Messages -/

theorem strip_append (g : Gate) (inner : String) : g.strip (g.lead ++ inner) = .ok inner := by
  have hrest : Text.afterLead? g.lead.toList (g.lead ++ inner).toList = some inner.toList := by
    rw [Text.afterLead?_eq_some_iff, String.toList_append]
  rw [strip, hrest]
  exact congrArg Except.ok String.ofList_toList

/-- Behind the prefix stands one topic only. -/
theorem eq_of_lead_append {g : Gate} {inner inner' : String}
    (h : g.lead ++ inner = g.lead ++ inner') : inner = inner' := by
  have hstrip := g.strip_append inner
  rw [h, strip_append] at hstrip
  exact (Except.ok.inj hstrip).symm

theorem strip_of_outside {g : Gate} {topic : String} (h : ∀ inner, topic ≠ g.lead ++ inner) :
    g.strip topic = .error (.outsidePrefix topic g.lead) := by
  have hrest : Text.afterLead? g.lead.toList topic.toList = none := by
    refine Option.eq_none_iff_forall_ne_some.mpr fun rest hrest => h (String.ofList rest) ?_
    rw [Text.afterLead?_eq_some_iff] at hrest
    rw [String.ext_iff, String.toList_append, String.toList_ofList, hrest]
  rw [strip, hrest]

/-- What becomes of a message under its full topic. -/
inductive AdmissionDerivation (g : Gate) (topic : String) (payload : List UInt8) (qos : Nat)
    (retain : Bool) : Admission → Prop where
  | outside (h : ∀ inner, topic ≠ g.lead ++ inner) :
      AdmissionDerivation g topic payload qos retain (.refused (.outsidePrefix topic g.lead))
  | unsubscribed {inner} (h : topic = g.lead ++ inner) (hs : g.isSubscribed inner = false) :
      AdmissionDerivation g topic payload qos retain .unsubscribed
  | closed {inner} (h : topic = g.lead ++ inner) (hs : g.isSubscribed inner = true)
      (hclosed : g.queue.isClosed = true) :
      AdmissionDerivation g topic payload qos retain (.refused .closed)
  | waits {inner} (h : topic = g.lead ++ inner) (hs : g.isSubscribed inner = true)
      (hopen : g.queue.isClosed = false) (hfull : g.queue.capacity ≤ g.queue.items.length) :
      AdmissionDerivation g topic payload qos retain .waits
  | queued {inner} (h : topic = g.lead ++ inner) (hs : g.isSubscribed inner = true)
      (hopen : g.queue.isClosed = false) (hroom : g.queue.items.length < g.queue.capacity) :
      AdmissionDerivation g topic payload qos retain
        (.queued { g with queue := g.queue.add (.message ⟨inner, payload, qos, retain⟩) })

theorem accept_derivation (g : Gate) (topic : String) (payload : List UInt8) (qos : Nat)
    (retain : Bool) :
    AdmissionDerivation g topic payload qos retain (g.accept topic payload qos retain) := by
  by_cases hlead : ∃ inner, topic = g.lead ++ inner
  · obtain ⟨inner, rfl⟩ := hlead
    rw [accept, strip_append]
    simp only
    split
    · next hs =>
        have hpush := g.queue.push_derivation (.message ⟨inner, payload, qos, retain⟩)
        generalize g.queue.push (.message ⟨inner, payload, qos, retain⟩) = offer at hpush ⊢
        cases hpush with
        | closed h => exact .closed rfl hs h
        | taken h hroom => exact .queued rfl hs h hroom
        | waits h hfull => exact .waits rfl hs h hfull
    · next hs => exact .unsubscribed rfl (by simpa using hs)
  · have houtside : ∀ inner, topic ≠ g.lead ++ inner := fun inner h => hlead ⟨inner, h⟩
    rw [accept, strip_of_outside houtside]
    exact .outside houtside

end Gate
end TopicBridge
