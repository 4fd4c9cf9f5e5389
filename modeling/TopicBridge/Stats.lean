import TopicBridge.Delivery

/-! # Statistics

Counters of 64 bits that wrap around, for what the consumer did with messages and records, and for
each topic pattern the writes of its rules.
-/

namespace TopicBridge

/-- The counts of a topic pattern. -/
structure RuleStats where
  records : UInt64
  writeFailures : UInt64
  deriving DecidableEq, Repr

/-- A counter as a document. -/
def counterJson (n : UInt64) : Json := .ofNat n.toNat

namespace RuleStats

/-- Nothing counted. -/
def zero : RuleStats := ⟨0, 0⟩

/-- The counts of a topic pattern as a document. -/
def toJson (r : RuleStats) : Json :=
  .object [("records", counterJson r.records), ("write_failures", counterJson r.writeFailures)]

end RuleStats

/-- The counts of a consumer. -/
structure Stats where
  received : UInt64
  records : UInt64
  written : UInt64
  writeFailures : UInt64
  suppressed : UInt64
  rejected : UInt64
  skippedRetained : UInt64
  buildFailures : UInt64
  /-- Messages of which a write was torn down. -/
  errors : UInt64
  /-- When the last message was dispatched, in seconds. -/
  lastMessageAt : Option Nat
  rules : Table RuleStats
  deriving DecidableEq, Repr

namespace Stats

/-- Nothing counted. -/
def zero : Stats := ⟨0, 0, 0, 0, 0, 0, 0, 0, 0, none, .empty⟩

/-- Counts a message taken out of the queue. -/
def countReceived (s : Stats) : Stats := { s with received := s.received + 1 }

/-- Counts the outcomes of a message at the rules, at a time; the time zero stands for none. -/
def countDispatch (now : Nat) (r : DispatchReport) (s : Stats) : Stats :=
  { s with
    records := s.records + .ofNat r.records
    rejected := s.rejected + .ofNat r.rejected
    skippedRetained := s.skippedRetained + .ofNat r.skippedRetained
    buildFailures := s.buildFailures + .ofNat r.failed
    lastMessageAt := if now = 0 then none else some now }

/-- Counts the writes of a message. -/
def countWrites (w : WriteSummary) (s : Stats) : Stats :=
  { s with
    written := s.written + .ofNat w.written
    writeFailures := s.writeFailures + .ofNat w.failed
    suppressed := s.suppressed + .ofNat w.suppressed }

/-- The counts of a topic pattern. -/
def rule (s : Stats) (topic : String) : RuleStats := (s.rules.get? topic).getD .zero

/-- Counts a write for a topic pattern. -/
def countRule (topic : String) (failed : Bool) (s : Stats) : Stats :=
  let counts := s.rule topic
  { s with
    rules := s.rules.insert topic
      ⟨counts.records + 1, counts.writeFailures + if failed then 1 else 0⟩ }

/-- Counts a message that was torn down. -/
def countError (s : Stats) : Stats := { s with errors := s.errors + 1 }

/-- Counts writes for the topic patterns of their rules; suppressed ones do not count. -/
def countRules (os : List (Rule × WriteOutcome)) (s : Stats) : Stats :=
  os.foldl (fun s (rule, o) =>
    if o = .suppressed then s else s.countRule rule.topic (o == .failed)) s

/-- The counts as a document. -/
def toJson (s : Stats) : Json :=
  .object [("received", counterJson s.received), ("records", counterJson s.records),
    ("written", counterJson s.written), ("write_failures", counterJson s.writeFailures),
    ("suppressed", counterJson s.suppressed), ("rejected", counterJson s.rejected),
    ("skipped_retained", counterJson s.skippedRetained),
    ("build_failures", counterJson s.buildFailures), ("errors", counterJson s.errors),
    ("last_message_at", (s.lastMessageAt.map Json.ofNat).getD .null),
    ("rules", .object (s.rules.map RuleStats.toJson).entries)]

end Stats

end TopicBridge
