import TopicBridge.Text.Utf8

/-! # Messages

What arrives: bytes under a topic, with a quality of service and a mark on what was kept from
earlier.
-/

namespace TopicBridge

/-- A message. -/
structure Message where
  topic : String
  payload : List UInt8
  qos : Nat
  /-- The message was kept from earlier and is delivered late. -/
  retain : Bool
  deriving DecidableEq, Repr

/-- The text of a payload, with replacement characters for what is no text. -/
def Message.payloadText (m : Message) : String := Text.Utf8.decodeLossy m.payload

/-- An entry of the queue. -/
inductive Item
  | message (m : Message)
  /-- Stops the consumer behind everything queued before. -/
  | shutdown
  deriving DecidableEq, Repr

end TopicBridge
