import TopicBridge.Json.Writer
import TopicBridge.Number.Decimal

/-! # Paths into documents

A path is a list of segments with commas between them. A segment is a key of an object or the
position of an item in an array, and each is followed in turn.
-/

namespace TopicBridge

namespace Json

/-- The part of a document that a segment names. -/
def child? (segment : String) : Json → Option Json
  | object members => lookup? segment members
  | array items =>
    match readNat64 segment.toList with
    | .ok i => items[i]?
    | .error _ => none
  | _ => none

/-- Follows segments; the first one that leads nowhere is reported. -/
def follow : List String → Json → Except String Json
  | [], document => .ok document
  | segment :: rest, document =>
    match document.child? segment with
    | some next => follow rest next
    | none => .error segment

/-- Follows the segments of a path. -/
def resolve (path : String) (document : Json) : Except String Json :=
  follow (Text.pieces ',' path) document

/-- The text of a leaf: a text as it is, anything else written as a document. -/
def leafText : Json → String
  | text s => s
  | document => document.render

/-- Following two lists of segments one after the other is following them at once. -/
theorem follow_append (p q : List String) (document : Json) :
    follow (p ++ q) document = (follow p document).bind (follow q) := by
  induction p generalizing document with
  | nil => rfl
  | cons segment rest ih =>
    simp only [List.cons_append, follow]
    cases document.child? segment with
    | none => rfl
    | some next => exact ih next

end Json

end TopicBridge
