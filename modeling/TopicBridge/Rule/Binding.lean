import TopicBridge.Config.Basic
import TopicBridge.Event
import TopicBridge.Rule.Basic

/-! # Binding rules

An entry of the configuration becomes a rule if it has a topic, its pattern can be subscribed to and
its token rules are well formed. What can be bound and still looks wrong is reported.
-/

namespace TopicBridge

/-- Why an entry does not become a rule. -/
inductive RuleFault
  | noTopic
  /-- The pattern or the rule of a token is not well formed. -/
  | pattern (cause : PatternFault)
  /-- The pattern cannot be subscribed to. -/
  | unsubscribable (filter : String)
  deriving DecidableEq, Repr

/-- The wording of a fault of the entry at a position; a fault of the pattern has none of its
own. -/
def RuleFault.message? (index : Nat) : RuleFault → Option String
  | noTopic => some ("Rule #" ++ toString index ++ " has no topic")
  | pattern _ => none
  | unsubscribable filter =>
    some ("Rule #" ++ toString index ++ " normalizes to invalid subscription filter '" ++ filter ++
      "'")

namespace TokenUse

/-- The use of a token that an entry describes. -/
def ofEntry (e : TokenEntry) : TokenUse :=
  ⟨e.fieldName, e.tagName, e.field, e.tag, e.measurement, e.fieldMap.map Value.toText,
    e.tagMap.map Value.toText⟩

end TokenUse

namespace PayloadUse

/-- The use of a payload that an entry describes; parts are taken in the order of their keys. -/
def ofEntry (e : PayloadEntry) : PayloadUse :=
  ⟨e.name, e.field, e.kind, e.path, e.extract.entries.map fun (k, x) => ⟨k, x.path, x.kind⟩⟩

end PayloadUse

namespace Rule

/-- Registers the token rules of entries one after the other. -/
def addValidators (p : Pattern) : List (String × TokenEntry) → Except PatternFault Pattern
  | [] => .ok p
  | (name, e) :: rest =>
    match e.rule with
    | none => addValidators p rest
    | some rule =>
      match p.addValidator name rule with
      | .ok p => addValidators p rest
      | .error fault => .error fault

/-- The rule with a pattern and what an entry says about records. -/
def ofEntry (e : RuleEntry) (p : Pattern) : Rule where
  pattern := p
  tokens := (e.tokens.getD .empty).map TokenUse.ofEntry
  payload := e.payload.map PayloadUse.ofEntry
  fields := e.fields.getD .empty
  tags := (e.tags.getD .empty).map Value.toText
  measurement := e.measurement.map Value.toText
  retain := e.retain
  disableWrite := e.disableWrite

/-- Adds the token rules of an entry to a pattern, and the rest of the entry to the rule. -/
def complete (e : RuleEntry) (p : Pattern) : Except PatternFault Rule :=
  (addValidators p (e.tokens.getD .empty).entries).map (ofEntry e)

/-- Builds the rule of an entry whether or not it can be subscribed to. -/
def build (e : RuleEntry) : Except PatternFault Rule :=
  match Pattern.compile (e.topic.getD "") with
  | .ok p => complete e p
  | .error fault => .error fault

/-- Binds an entry. -/
def bind (e : RuleEntry) : Except RuleFault Rule :=
  match e.topic with
  | none => .error .noTopic
  | some topic =>
    match Pattern.compile topic with
    | .error fault => .error (.pattern fault)
    | .ok p =>
      if Filter.isValid p.normalized then
        match complete e p with
        | .ok r => .ok r
        | .error fault => .error (.pattern fault)
      else .error (.unsubscribable p.normalized)

/-! ## Warnings -/

/-- The tokens with settings that the pattern does not capture. -/
def uncaptured (r : Rule) : List String :=
  r.tokens.keys.filter fun token => !(r.pattern.names.contains token)

/-- The kind that a rule names for payloads, if there is such a kind. -/
def payloadKind? (u : PayloadUse) : Option Kind := u.kind.bind Kind.ofName?

/-- Whether payloads are to be read as documents and no part is named. -/
def lacksPath (u : PayloadUse) : Bool :=
  u.isField && payloadKind? u == some .json && u.path.isNone

/-- The names of kinds that a use of payloads gives and that there are not. -/
def unknownKinds (u : PayloadUse) : List String :=
  (u.kind.toList ++ u.extractions.filterMap (·.kind)).filter fun name => (Kind.ofName? name).isNone

/-- What looks wrong about a rule. -/
def warnings (r : Rule) : List Event :=
  r.uncaptured.map (.tokenNotCaptured r.topic) ++
    match r.payload with
    | none => []
    | some u =>
      (if lacksPath u then [.jsonWithoutPath r.topic] else []) ++
        (unknownKinds u).map (.unknownKind r.topic)

end Rule

end TopicBridge
