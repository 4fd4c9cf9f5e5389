import TopicBridge.Config.Basic
import TopicBridge.Dispatch
import TopicBridge.Source.Queue

/-! # The gate

The gate lets messages into the queue. A message has to be under the prefix of the gate and under
one of its subscriptions; the consumer sees its topic without the prefix.
-/

namespace TopicBridge

/-- A gate in front of a queue. -/
structure Gate where
  /-- What topics start with: nothing, or a text with a slash at its end. -/
  lead : String
  filters : List String
  queue : Queue
  deriving DecidableEq, Repr

namespace Gate

/-- What topics start with under a prefix: a slash is pushed behind it unless there is one already or
nothing in front of it. -/
def leadOf (topicPrefix : String) : String :=
  if !topicPrefix.isEmpty && topicPrefix.toList.getLast? != some '/' then topicPrefix.push '/'
  else topicPrefix

/-- The gate without subscriptions. -/
def opened (topicPrefix : String) (queue : Queue) : Gate := ⟨leadOf topicPrefix, [], queue⟩

/-- A topic without the prefix. -/
def strip (g : Gate) (topic : String) : Except SourceFault String :=
  match Text.afterLead? g.lead.toList topic.toList with
  | some rest => .ok (String.ofList rest)
  | none => .error (.outsidePrefix topic g.lead)

/-- Whether a topic without the prefix is under a subscription. -/
def isSubscribed (g : Gate) (topic : String) : Bool := g.filters.any fun f => Filter.selects f topic

/-- Adds a subscription; one that is there already is not added again. -/
def subscribe (g : Gate) (filter : String) : Except SourceFault Gate :=
  if !Filter.isValid filter then .error (.invalidFilter filter)
  else if g.filters.contains filter then .ok g
  else .ok { g with filters := g.filters ++ [filter] }

/-- What is told about a subscription. -/
def subscribeEvents (g : Gate) (filter : String) : List Event :=
  if Filter.isValid filter && !g.filters.contains filter then [.subscribing (g.lead ++ filter)]
  else []

/-- What becomes of a message at the gate. -/
inductive Admission
  | queued (g : Gate)
  /-- No subscription is for the topic. -/
  | unsubscribed
  /-- The queue is full. -/
  | waits
  | refused (cause : SourceFault)
  deriving DecidableEq, Repr

/-- Brings a message under its full topic. -/
def accept (g : Gate) (topic : String) (payload : List UInt8) (qos : Nat) (retain : Bool) :
    Admission :=
  match g.strip topic with
  | .error cause => .refused cause
  | .ok inner =>
    if g.isSubscribed inner then
      match g.queue.push (.message ⟨inner, payload, qos, retain⟩) with
      | .taken q => .queued { g with queue := q }
      | .waits => .waits
      | .closed => .refused .closed
    else .unsubscribed

/-- What is told about a message under its full topic. -/
def acceptEvents (topic : String) : Admission → List Event
  | .unsubscribed => [.noSubscription topic]
  | _ => []

/-- Subscribes to filters one after the other, leaving out those that cannot be subscribed to. -/
def subscribeAll (g : Gate) (filters : List String) : Gate :=
  filters.foldl (fun g f => ((g.subscribe f).toOption).getD g) g

/-- What is told about subscribing to filters. -/
def subscribeAllEvents (g : Gate) : List String → List Event
  | [] => []
  | f :: fs =>
    match g.subscribe f with
    | .ok g' => g.subscribeEvents f ++ g'.subscribeAllEvents fs
    | .error cause => .cannotSubscribe f cause :: g.subscribeAllEvents fs

/-- The gate with the subscriptions of a set of rules. -/
def ofRules (topicPrefix : String) (queue : Queue) (rules : RuleSet) : Gate :=
  (Gate.opened topicPrefix queue).subscribeAll rules.subscriptions

end Gate

end TopicBridge
