import TopicBridge.Message

/-! # The queue

A first-in first-out queue of bounded length between those who bring messages and the consumer. To
add to a full queue means to wait. Once the consumer is gone the queue holds nothing and takes
nothing.
-/

namespace TopicBridge

/-- What becomes of an entry that is offered to a queue. -/
inductive Offer (α : Type)
  | taken (a : α)
  /-- There is no room, and whoever offers waits. -/
  | waits
  /-- Nobody takes entries out any more. -/
  | closed
  deriving DecidableEq, Repr

/-- A queue. -/
structure Queue where
  capacity : Nat
  items : List Item
  isClosed : Bool
  deriving DecidableEq, Repr

namespace Queue

/-- The empty queue with room for a number of entries. -/
def bounded (capacity : Nat) : Queue := ⟨capacity, [], false⟩

/-- The number of entries that there is room for. -/
def free (q : Queue) : Nat := q.capacity - q.items.length

/-- Offers an entry. -/
def push (q : Queue) (item : Item) : Offer Queue :=
  if q.isClosed then .closed
  else if q.items.length < q.capacity then .taken { q with items := q.items ++ [item] }
  else .waits

/-- Takes out the first entry. -/
def pop? (q : Queue) : Option (Item × Queue) :=
  match q.items with
  | [] => none
  | item :: rest => some (item, { q with items := rest })

/-- The consumer goes, and what is still queued is lost. -/
def close (q : Queue) : Queue := { q with items := [], isClosed := true }

end Queue

end TopicBridge
