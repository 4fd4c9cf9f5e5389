import Mathlib.Algebra.Group.Nat.Defs
import Mathlib.Data.Nat.Find
import TopicBridge.Influx.Retry

/-! # Runs of attempts

Attempts go on while they fail for a cause that may pass and the policy allows another one. The last
of them gives the answer, and the delays of the policy lie between them. -/

namespace TopicBridge

/-- An answer after which the same write may succeed. -/
inductive Answer.Passing : Answer → Prop where
  | refused {cause : SinkFault} (h : cause.mayPass) : Passing (.refused cause)

namespace Influx

/-! ## Delays -/

namespace RetryPolicy

/-- A tenth of a second, doubled each time, up to two seconds. -/
def doubled (i : Nat) : Nat := min (100 * millisecond * 2 ^ i) (2 * second)

end RetryPolicy

/-! ## One attempt -/

variable {σ : Type} {policy : RetryPolicy} {attempt : σ → Reply σ}

/-- What comes of a single attempt. -/
def Attempts.single (r : Reply σ) : Attempts σ := ⟨r.answer, [], r.events, r.state⟩

section Course

variable (policy attempt) (wait : σ → Nat → σ) (delays : Nat → Nat) (s : σ)

/-- The state before an attempt, if all earlier ones may pass. -/
def before : Nat → σ
  | 0 => s
  | i + 1 => wait (attempt (before i)).state (delays i)

end Course

variable {wait : σ → Nat → σ} {delays : Nat → Nat} {s : σ}

end Influx
end TopicBridge
