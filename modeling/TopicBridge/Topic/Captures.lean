import TopicBridge.Text.Split

/-! # Captures

What the named wildcards of a pattern took from a topic: one level, or a list of levels. Captures
keep the order in which their names came first; a name that comes again takes the new value.
-/

namespace TopicBridge

/-- What a named wildcard took. -/
inductive Capture
  | single (level : String)
  | multi (levels : List String)
  deriving DecidableEq, Repr

/-- The text of a capture; several levels are joined with `/`. -/
def Capture.text : Capture → String
  | single level => level
  | multi levels => Text.joined '/' levels

/-- Captures by name, in the order in which their names came first. -/
structure Captures where
  entries : List (String × Capture)
  deriving DecidableEq, Repr

namespace Captures

/-- No captures. -/
def empty : Captures := ⟨[]⟩

/-- The entries with the value under a name replaced, or added at the end. -/
def place (name : String) (value : Capture) : List (String × Capture) → List (String × Capture)
  | [] => [(name, value)]
  | (n, v) :: rest => if n = name then (n, value) :: rest else (n, v) :: place name value rest

/-- Sets the value under a name. -/
def insert (c : Captures) (name : String) (value : Capture) : Captures :=
  ⟨place name value c.entries⟩

/-- The value under a name. -/
def get? (c : Captures) (name : String) : Option Capture :=
  (c.entries.find? (·.1 = name)).map (·.2)

/-- The number of names. -/
def size (c : Captures) : Nat := c.entries.length

/-- Sets the values of a list, one after the other. -/
def ofList (entries : List (String × Capture)) : Captures :=
  entries.foldl (fun c (n, v) => c.insert n v) empty

end Captures

end TopicBridge
