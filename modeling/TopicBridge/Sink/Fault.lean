import TopicBridge.Record.Line
import TopicBridge.Url.Fault

/-! # Faults of sinks

Why a record is not written, with the wording of each cause. Some causes may pass, and then the
write is tried again.
-/

namespace TopicBridge

/-- Why a record is not written. -/
inductive SinkFault
  /-- The record has no line. -/
  | unwritable (cause : LineFault)
  /-- The server answered with a status that is no success. -/
  | status (code : Nat) (body : String)
  /-- The address of the server is no URL. -/
  | invalidUrl (url : String) (cause : UrlFault)
  | timedOut
  /-- No connection was made. -/
  | unreachable (detail : String)
  /-- The connection broke before an answer came. -/
  | interrupted (detail : String)
  /-- Every attempt was made and none left a fault behind. -/
  | exhausted
  deriving DecidableEq, Repr

namespace SinkFault

/-- The wording of a fault. -/
def message : SinkFault → String
  | unwritable cause => cause.message
  | status code body => "HTTP error status " ++ toString code ++ ": " ++ body
  | invalidUrl url cause => "Invalid InfluxDB URL '" ++ url ++ "': " ++ cause.message
  | timedOut => "Write timed out"
  | unreachable detail => "Connection failed: " ++ detail
  | interrupted detail => "HTTP request failed: " ++ detail
  | exhausted => "Maximum retries exceeded"

/-- Whether the same write may succeed later: the server was not reached, or it failed itself. -/
def mayPass : SinkFault → Bool
  | status code _ => 500 ≤ code && code ≤ 599
  | timedOut => true
  | unreachable _ => true
  | interrupted _ => true
  | _ => false

end SinkFault

end TopicBridge
