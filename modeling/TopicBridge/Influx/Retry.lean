import TopicBridge.Sink.Basic

/-! # Trying again

A write that fails for a cause that may pass is tried again after a delay, a limited number of times.
Delays grow by a factor up to a limit. They are counted in nanoseconds and multiplied as
floating-point seconds.
-/

namespace TopicBridge.Influx

/-- How often and how fast to try again. -/
structure RetryPolicy where
  maxRetries : Nat
  /-- The first delay in nanoseconds. -/
  initialDelay : Nat
  /-- The limit of later delays in nanoseconds. -/
  maxDelay : Nat
  factor : Binary64
  deriving DecidableEq, Repr

namespace RetryPolicy

/-- Nanoseconds in a second. -/
def second : Nat := 1000000000

/-- Nanoseconds in a millisecond. -/
def millisecond : Nat := 1000000

/-- Three more attempts, after a tenth of a second, then twice as long, up to two seconds. -/
def standard : RetryPolicy := ⟨3, 100 * millisecond, 2 * second, .ofNat 2⟩

/-- A delay in seconds. -/
def toSeconds (delay : Nat) : Binary64 :=
  (Binary64.ofNat (delay / second)).add ((Binary64.ofNat (delay % second)).div (.ofNat second))

/-- The delay that a number of seconds is, if it is one: not negative and below `2 ^ 64` seconds. -/
def ofSeconds? : Binary64 → Option Nat
  | .finite negative m e =>
    if m = 0 then some 0
    else if negative then none
    else
      let n :=
        if 0 ≤ e then m * Nat.pow 2 e.toNat * second
        else Binary64.roundDiv (m * second) (Nat.pow 2 (-e).toNat)
      if n < 0x10000000000000000 * second then some n else none
  | _ => none

/-- The delay after a delay. A factor can take it out of range. -/
def nextDelay? (p : RetryPolicy) (delay : Nat) : Option Nat :=
  (ofSeconds? ((toSeconds delay).mul p.factor)).map (min · p.maxDelay)

end RetryPolicy

/-- What came of attempts. -/
structure Attempts (σ : Type) where
  answer : Answer
  /-- The delays between attempts, in nanoseconds. -/
  waits : List Nat
  events : List Event
  state : σ

variable {σ : Type}

/-- Attempts that come behind an earlier one. -/
def Attempts.behind (waits : List Nat) (events : List Event) (a : Attempts σ) : Attempts σ :=
  { a with waits := waits ++ a.waits, events := events ++ a.events }

/-- Makes the attempts from `number` on, `left` of them at most, until one succeeds or fails for
good. Between two attempts there is a delay. The cause of the last failure is kept: it is the answer
when no attempt is left. -/
def retry (policy : RetryPolicy) (attempt : σ → Reply σ) (wait : σ → Nat → σ) :
    (left number delay : Nat) → Option SinkFault → σ → Attempts σ
  | 0, _, _, last, s => ⟨.refused (last.getD .exhausted), [], [], s⟩
  | left + 1, number, delay, _, s =>
    let reply := attempt s
    match reply.answer with
    | .refused cause =>
      if !cause.mayPass then ⟨reply.answer, [], reply.events, reply.state⟩
      else if number < policy.maxRetries then
        let events := reply.events ++
          [.retrying (number + 1) policy.maxRetries (delay / RetryPolicy.millisecond)]
        let rested := wait reply.state delay
        match policy.nextDelay? delay with
        | none => ⟨.broke "delay out of range", [delay], events, rested⟩
        | some next =>
          (retry policy attempt wait left (number + 1) next (some cause) rested).behind [delay]
            events
      else
        (retry policy attempt wait left (number + 1) delay (some cause) reply.state).behind []
          reply.events
    | _ => ⟨reply.answer, [], reply.events, reply.state⟩

end TopicBridge.Influx
