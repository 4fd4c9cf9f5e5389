import TopicBridge.Config.Decoding
import TopicBridge.Config.Validation
import TopicBridge.Yaml.Meaning
import TopicBridge.Yaml.Node

/-! # Configuration files

The view of documents in YAML as nodes of a configuration, and the reading of whole files. Where a
text is asked for, every scalar is one as it is written; tags and quotes keep a scalar from being
anything but a text where it could be several things.
-/

namespace TopicBridge

namespace Yaml

/-- A part of a document, beside all parts of the document with anchors. -/
structure Part where
  anchored : List (Nat × Node)
  node : Node
  deriving Repr

namespace Part

/-- Another part of the same document. -/
def other (p : Part) (d : Node) : Part := { p with node := d }

/-- The node that a part is, also through an alias. -/
def resolved (p : Part) : Node :=
  match p.node with
  | .reference number => (p.anchored.lookup number).getD .missing
  | d => d

/-- A tag of the language itself. -/
def standardTag (name : String) : String := "tag:yaml.org,2002:" ++ name

/-- The text of a scalar. -/
def textOf? (p : Part) : Option String :=
  match p.resolved with
  | .scalar _ _ _ text => some text
  | _ => none

/-- The text of a scalar without quotes; a literal block with the right tag is as good. -/
def bareTextOf? (tag : String) (p : Part) : Option String :=
  match p.resolved with
  | .scalar _ t style text =>
    if style = .plain ∨ style = .literal ∧ t = some (standardTag tag) then some text else none
  | _ => none

/-- An integer as a value. It has to fit 64 bits; if only without sign, it becomes a floating-point
number. -/
def integerValue? (n : Int) : Option Value :=
  if fitsInt64 n then some (.int n)
  else if 0 ≤ n ∧ n ≤ 0xffffffffffffffff then some (.float (.ofInt n))
  else none

/-- The value that a text without tag is. -/
def plainValue? (text : String) : Option Value :=
  match meaning text with
  | .nothing => none
  | .flag b => some (.bool b)
  | .integer n => integerValue? n
  | .float x => some (.float x)
  | .text => some (.text text)

/-- The value that a text with a tag is. A tag of one's own makes it none. -/
def taggedValue? (tag text : String) : Option Value :=
  if tag = standardTag "bool" then (flagOf? text).map .bool
  else if tag = standardTag "int" then (wideOf? text).bind integerValue?
  else if tag = standardTag "float" then (floatOf? text).map .float
  else if tag = standardTag "null" ∨ tag.toList.head? = some '!' then none
  else some (.text text)

/-- The value that a scalar is. -/
def valueOf? (p : Part) : Option Value :=
  match p.resolved with
  | .scalar _ (some tag) _ text => taggedValue? tag text
  | .scalar _ none style text => if style = .plain then plainValue? text else some (.text text)
  | _ => none

/-- Whether a part says that there is no value. The tag for this goes with no other text. -/
def saysNothing? (p : Part) : Option Bool :=
  match p.resolved with
  | .scalar _ tag style text =>
    if style ≠ .plain then some false
    else
      match tag with
      | none => some (text.isEmpty || isNull text)
      | some tag =>
        if tag = standardTag "null" then if isNull text then some true else none else some false
  | _ => some false

/-- Whether nothing is written where a collection is asked for. -/
def isMissing (d : Node) : Bool :=
  match d with
  | .scalar _ _ style text => style = .plain && text.isEmpty
  | _ => false

/-- The items of a sequence. -/
def itemsOf? (p : Part) : Option (List Part) :=
  match p.resolved with
  | .sequence _ items => some (items.map p.other)
  | d => if isMissing d then some [] else none

/-- The entries of a mapping, whose keys have to be scalars. -/
def entriesOf? (p : Part) : Option (List (String × Part)) :=
  match p.resolved with
  | .mapping _ entries => entries.mapM fun (k, d) => (p.other k).textOf?.map fun k => (k, p.other d)
  | d => if isMissing d then some [] else none

/-- The entries of a mapping with the given keys, unless one of them is there twice. -/
def fieldsOf? (keys : List (String × Bool)) (p : Part) : Option (List (String × Part)) := do
  let known := (← p.entriesOf?).filter fun e => keys.any fun k => k.1 = e.1
  if (known.map (·.1)).Nodup then some known else none

instance : ConfigNode Part where
  text? := textOf?
  flag? p := (p.bareTextOf? "bool").bind flagOf?
  natural? limit p := ((p.bareTextOf? "int").bind naturalOf?).filter (· ≤ limit)
  scalar? := valueOf?
  absent? := saysNothing?
  items? := itemsOf?
  entries? := entriesOf?
  fields? := fieldsOf?

end Part

/-- The part of a document that is all of it. -/
def Document.whole (d : Document) : Part := ⟨d.anchored, d.root⟩

end Yaml

namespace Config

/-- Reads the text of a configuration. -/
def ofText (text : String) : Except ConfigFault Config :=
  match (Yaml.Document.ofText? text).bind fun d => decode? d.whole with
  | some c => validate c
  | none => .error .malformed

/-- Reads the content of a configuration file, if there is a file. -/
def ofFile (content : Option (List UInt8)) : Except ConfigFault Config :=
  match content.bind Text.Utf8.decode? with
  | some text => ofText text
  | none => .error .unreadable

end Config

end TopicBridge
