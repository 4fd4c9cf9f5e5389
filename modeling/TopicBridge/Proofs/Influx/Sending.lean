import TopicBridge.Influx.Sink
import TopicBridge.Proofs.Influx.Retry
import TopicBridge.Proofs.Line.Batch

/-! # Sending lines

Lines are sent again while the server is out of reach or fails itself, the same request each time,
and what the last attempt comes to is the answer. Records without a line are never sent. -/

namespace TopicBridge.Influx

/-! ## Responses -/

/-- A response after which the same request may succeed: there is none, or the server failed. -/
inductive Response.Passing : Response → Prop where
  | timedOut : Passing .timedOut
  | unreachable (detail) : Passing (.unreachable detail)
  | interrupted (detail) : Passing (.interrupted detail)
  | failing {status} (body) (hlow : 500 ≤ status) (hhigh : status ≤ 599) :
      Passing (.answered status body)

theorem Response.Passing.answer {r : Response} (h : r.Passing) : r.answer.Passing := by
  cases h with
  | timedOut => exact .refused rfl
  | unreachable detail => exact .refused rfl
  | interrupted detail => exact .refused rfl
  | failing body hlow hhigh =>
      rw [Response.answer, if_neg (by simp [isSuccess]; omega)]
      exact .refused (by simp [SinkFault.mayPass, hlow, hhigh])

/-- What is done at a server. -/
inductive Move
  | sent (request : WriteRequest)
  | waited (delay : Nat)
  deriving DecidableEq, Repr

variable {σ : Type}

/-- A way to send requests that keeps what it does. -/
def Transport.recording (t : Transport σ) : Transport (σ × List Move) where
  send s request :=
    ((t.send s.1 request).1, (t.send s.1 request).2, s.2 ++ [.sent request])
  wait s delay := (t.wait s.1 delay, s.2 ++ [.waited delay])

/-- A request that is sent again after each delay. -/
def moves (request : WriteRequest) (delays : List Nat) : List Move :=
  delays.flatMap (fun delay => [.sent request, .waited delay]) ++ [.sent request]

variable (e : Endpoint) (t : Transport σ) (body : String) (s : σ)

/-- What an attempt comes to, if all earlier ones may pass. -/
def outcome (i : Nat) : Response × σ :=
  t.send (before (sendLines e t body) t.wait RetryPolicy.doubled s i) (e.request body)

variable {e t body s} {maxRetries : Nat}

variable (e t body s)

variable {e t s}

end TopicBridge.Influx
