/-! # Faults of sources

Why a message or a subscription is turned away.
-/

namespace TopicBridge

/-- Why a message or a subscription is turned away. -/
inductive SourceFault
  /-- A topic does not start with the prefix of the source. -/
  | outsidePrefix (topic lead : String)
  /-- A filter may not be subscribed to. -/
  | invalidFilter (filter : String)
  /-- Nobody takes messages out of the queue any more. -/
  | closed
  deriving DecidableEq, Repr

/-- The wording of a fault. -/
def SourceFault.message : SourceFault → String
  | outsidePrefix topic lead =>
    "Received topic '" ++ topic ++ "' does not contain prefix '" ++ lead ++ "'"
  | invalidFilter filter => "Invalid subscription filter '" ++ filter ++ "'"
  | closed => "Message queue is closed"

end TopicBridge
