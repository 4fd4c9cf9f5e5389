import TopicBridge.Payload.Kind
import TopicBridge.Record.Basic
import TopicBridge.Topic.Pattern

/-! # Rules

A rule says which topics it is for and how a message under such a topic becomes a record: what the
captured levels and the payload become, and what is the same for every record.
-/

namespace TopicBridge

/-- What a captured token becomes. -/
structure TokenUse where
  fieldName : Option String
  tagName : Option String
  isField : Bool
  isTag : Bool
  isMeasurement : Bool
  /-- Maps the text of a field to another; in use unless empty. -/
  fieldMap : Table String
  /-- Maps the text of a tag to another; in use unless empty. -/
  tagMap : Table String
  deriving DecidableEq, Repr

namespace TokenUse

/-- The key of the field. -/
def fieldKey (u : TokenUse) (token : String) : String := u.fieldName.getD token

/-- The key of the tag. -/
def tagKey (u : TokenUse) (token : String) : String := u.tagName.getD token

end TokenUse

/-- A part of a payload that becomes a field. -/
structure Extraction where
  field : String
  path : String
  kind : Option String
  deriving DecidableEq, Repr

/-- What a payload becomes. -/
structure PayloadUse where
  name : String
  isField : Bool
  kind : Option String
  path : Option String
  extractions : List Extraction
  deriving DecidableEq, Repr

/-- Whether a payload becomes anything. -/
def PayloadUse.isUsed (u : PayloadUse) : Bool := u.isField || !u.extractions.isEmpty

/-- A rule. -/
structure Rule where
  pattern : Pattern
  tokens : Table TokenUse
  payload : Option PayloadUse
  fields : Table Value
  tags : Table String
  measurement : Option String
  /-- Messages kept from earlier are taken too. -/
  retain : Bool
  /-- Records are built and not written. -/
  disableWrite : Bool
  deriving DecidableEq, Repr

namespace Rule

/-- The pattern as written. -/
def topic (r : Rule) : String := r.pattern.topic

/-- The subscription filter of a rule. -/
def normalized (r : Rule) : String := r.pattern.normalized

/-- A rule for a pattern that makes empty records. -/
def ofPattern (p : Pattern) : Rule :=
  ⟨p, .empty, none, .empty, .empty, none, false, false⟩

/-- A rule for a topic that makes empty records. -/
def ofTopic (topic : String) : Except PatternFault Rule := (Pattern.compile topic).map ofPattern

end Rule

end TopicBridge
