import TopicBridge.Yaml.Layout

/-! # Nodes

A document in YAML as a tree. Parts of it may have anchors and stand elsewhere through aliases. An
anchor gets the count of names before it as its number, and an alias takes the number that its name
has at that point; where numbers meet, the last part counts.
-/

namespace TopicBridge.Yaml

/-- A part of a document. -/
inductive Node
  | scalar (anchor : Option Nat) (tag : Option String) (style : Style) (text : String)
  | sequence (anchor : Option Nat) (items : List Node)
  | mapping (anchor : Option Nat) (entries : List (Node × Node))
  | reference (number : Nat)
  deriving Repr, Inhabited

namespace Node

/-- The scalar that stands where nothing is written. -/
def missing : Node := scalar none none .plain ""

/-- A number with the part that bears it, if there is one. -/
def numbered : Option Nat → Node → List (Nat × Node)
  | some n, d => [(n, d)]
  | none, _ => []

mutual

/-- The parts with anchors, in the order in which they start. -/
def anchored : Node → List (Nat × Node)
  | scalar a tag style text => numbered a (scalar a tag style text)
  | sequence a items => numbered a (sequence a items) ++ anchoredItems items
  | mapping a entries => numbered a (mapping a entries) ++ anchoredEntries entries
  | reference _ => []

/-- The parts of items with anchors. -/
def anchoredItems : List Node → List (Nat × Node)
  | [] => []
  | d :: ds => d.anchored ++ anchoredItems ds

/-- The parts of entries with anchors. -/
def anchoredEntries : List (Node × Node) → List (Nat × Node)
  | [] => []
  | (k, d) :: es => k.anchored ++ d.anchored ++ anchoredEntries es

end

end Node

/-! ## From tokens to nodes -/

/-- What is known while tokens are read. -/
structure Source where
  tokens : List Token
  /-- What handles of tags stand for. -/
  handles : List (String × String)
  /-- The names of anchors, each with its last number. -/
  names : List (String × Nat)
  deriving Repr

/-- A step that reads tokens. -/
abbrev Reading := StateT Source Option

namespace Reading

/-- The next token. -/
def peek : Reading (Option Token) := do return (← get).tokens.head?

/-- Goes on behind the next token. -/
def next : Reading Unit := modify fun s => { s with tokens := s.tokens.drop 1 }

/-- Goes on behind a token that has to come next. -/
def expect (t : Token) : Reading Unit := do
  if (← peek) = some t then next else failure

/-- Goes on behind a token if it comes next. -/
def take (t : Token) : Reading Bool := do
  if (← peek) = some t then
    next
    return true
  else return false

/-- Whether one of some tokens comes next. -/
def isNext (ts : List Token) : Reading Bool := do
  return (← peek).any ts.contains

/-- Gives an anchor its number. -/
def number (name : String) : Reading Nat :=
  modifyGet fun s =>
    let n := s.names.length
    (n, { s with names := (name, n) :: s.names.filter fun e => e.1 ≠ name })

/-- What a tag says, with its handle replaced by what that stands for. -/
def tagText (handle suffix : String) : Reading String := do
  if handle.isEmpty then return suffix
  else
    match (← get).handles.lookup handle with
    | some lead => return lead ++ suffix
    | none => failure

/-- Reads an anchor, if one comes next. -/
def anchor : Reading (Option Nat) := do
  match ← peek with
  | some (.anchor name) =>
    next
    return some (← number name)
  | _ => return none

/-- Reads a tag, if one comes next. -/
def tag : Reading (Option String) := do
  match ← peek with
  | some (.tag handle suffix) =>
    next
    return some (← tagText handle suffix)
  | _ => return none

/-- Reads an anchor and a tag, which may come in either order. -/
def properties : Reading (Option Nat × Option String) := do
  match ← anchor with
  | some n => return (some n, ← tag)
  | none =>
    let t ← tag
    return (← if t.isSome then anchor else pure none, t)

/-- The tag of a scalar; a lone `!` says nothing. -/
def scalarTag (tag : Option String) : Option String := if tag = some "!" then none else tag

mutual

/-- Reads a node. Indented collections may stand only outside brackets, and items that are not
indented only in a mapping. -/
def node : (fuel : Nat) → (indented itemsHere : Bool) → Reading Node
  | 0, _, _ => failure
  | fuel + 1, indented, itemsHere => do
    match ← peek with
    | some (.alias name) =>
      next
      match (← get).names.lookup name with
      | some n => return .reference n
      | none => failure
    | _ =>
      let (anchor, tag) ← properties
      match ← peek with
      | some (.scalar style text) =>
        next
        return .scalar anchor (scalarTag tag) style text
      | some .openBracket =>
        next
        return .sequence anchor (← bracketItems fuel true)
      | some .openBrace =>
        next
        return .mapping anchor (← braceEntries fuel true)
      | t =>
        if itemsHere && t = some .entry then return .sequence anchor (← itemsOutside fuel)
        else if indented && t = some .openSequence then
          next
          return .sequence anchor (← items fuel)
        else if indented && t = some .openMapping then
          next
          return .mapping anchor (← entries fuel)
        else if anchor.isSome || tag.isSome then return .scalar anchor tag .plain ""
        else failure

/-- Reads a node, unless a token comes that ends it before it starts. -/
def nodeUnless : (fuel : Nat) → (indented itemsHere : Bool) → (ends : List Token) → Reading Node
  | 0, _, _, _ => failure
  | fuel + 1, indented, itemsHere, ends => do
    if ← isNext ends then return .missing else node fuel indented itemsHere

/-- Reads the items of an indented sequence. -/
def items : (fuel : Nat) → Reading (List Node)
  | 0 => failure
  | fuel + 1 => do
    if ← take .entry then
      let d ← nodeUnless fuel true false [.entry, .close]
      return d :: (← items fuel)
    else
      expect .close
      return []

/-- Reads items that are not indented within a mapping. -/
def itemsOutside : (fuel : Nat) → Reading (List Node)
  | 0 => failure
  | fuel + 1 => do
    if ← take .entry then
      let d ← nodeUnless fuel true false [.entry, .key, .value, .close]
      return d :: (← itemsOutside fuel)
    else return []

/-- Reads the entries of an indented mapping. -/
def entries : (fuel : Nat) → Reading (List (Node × Node))
  | 0 => failure
  | fuel + 1 => do
    if ← take .close then return []
    else
      let k ← if ← take .key then nodeUnless fuel true true [.key, .value, .close] else failure
      let d ←
        if ← take .value then nodeUnless fuel true true [.key, .value, .close]
        else pure .missing
      return (k, d) :: (← entries fuel)

/-- Reads the items of a sequence in brackets. One that starts like an entry is a mapping of that
entry. -/
def bracketItems : (fuel : Nat) → (isFirst : Bool) → Reading (List Node)
  | 0, _ => failure
  | fuel + 1, isFirst => do
    if ← take .closeBracket then return []
    else
      if !isFirst then expect .comma
      if ← take .closeBracket then return []
      else if ← take .key then
        let e ← bracketEntry fuel
        return .mapping none [e] :: (← bracketItems fuel false)
      else
        let d ← node fuel false false
        return d :: (← bracketItems fuel false)

/-- Reads an entry among the items of a sequence in brackets. Where its key is missing, the token
that shows this is gone with it. -/
def bracketEntry : (fuel : Nat) → Reading (Node × Node)
  | 0 => failure
  | fuel + 1 => do
    let ends : List Token := [.comma, .closeBracket]
    let k ←
      if ← isNext (.value :: ends) then
        next
        pure Node.missing
      else node fuel false false
    let d ← if ← take .value then nodeUnless fuel false false ends else pure .missing
    return (k, d)

/-- Reads the entries of a mapping in braces. What stands alone is a key. -/
def braceEntries : (fuel : Nat) → (isFirst : Bool) → Reading (List (Node × Node))
  | 0, _ => failure
  | fuel + 1, isFirst => do
    if ← take .closeBrace then return []
    else
      if !isFirst then expect .comma
      if ← take .closeBrace then return []
      else
        let ends : List Token := [.comma, .closeBrace]
        let e ←
          if ← take .key then
            let k ← nodeUnless fuel false false (.value :: ends)
            let d ← if ← take .value then nodeUnless fuel false false ends else pure .missing
            pure (k, d)
          else
            let k ← node fuel false false
            pure (k, .missing)
        return e :: (← braceEntries fuel false)

end

/-! ## Documents -/

/-- Reads directives: at most one for the version, which has to be 1.1 or 1.2, and at most one for
each handle. -/
def directives : (versionSeen : Bool) → (handles : List (String × String)) → List Token →
    Option (List (String × String) × List Token)
  | versionSeen, handles, .version major minor :: ts =>
    if versionSeen || major ≠ 1 || (minor ≠ 1 && minor ≠ 2) then none
    else directives true handles ts
  | versionSeen, handles, .tagHandle handle lead :: ts =>
    if (handles.lookup handle).isSome then none
    else directives versionSeen (handles ++ [(handle, lead)]) ts
  | _, handles, ts => some (handles, ts)

/-- The handles that need no directive. -/
def standardHandles : List (String × String) := [("!", "!"), ("!!", "tag:yaml.org,2002:")]

/-- Reads the node of a document from the tokens behind its start. -/
def root (ts : List Token) (handles : List (String × String)) : Option (Node × List Token) :=
  ((node (3 * ts.length + 3) true false).run ⟨ts, handles ++ standardHandles, []⟩).map fun r =>
    (r.1, r.2.tokens)

/-- Whether a document that was opened by a mark ends before its node starts. -/
def isBare : List Token → Bool
  | [] => true
  | t :: _ =>
    match t with
    | .version _ _ | .tagHandle _ _ | .documentStart | .documentEnd => true
    | _ => false

/-- Reads the only document from all tokens; there may be none. -/
def document (ts : List Token) : Option Node :=
  if ts.isEmpty then some .missing
  else
    let read : Option (Node × List Token) :=
      match directives false [] ts with
      | none => none
      | some (handles, .documentStart :: rest) =>
        if isBare rest then some (.missing, rest) else root rest handles
      | some (_, rest) => if rest.length = ts.length then root ts [] else none
    match read with
    | some (d, rest) => if rest.all (· = .documentEnd) then some d else none
    | none => none

end Reading

/-- A document. -/
structure Document where
  root : Node
  /-- The parts with anchors by their numbers, the last one of a number first. -/
  anchored : List (Nat × Node)
  deriving Repr, Inhabited

namespace Document

/-- The document with a root. -/
def ofRoot (root : Node) : Document := ⟨root, root.anchored.reverse⟩

/-- The only document in a text; a text that says nothing has an empty one. -/
def ofText? (text : String) : Option Document := do
  return ofRoot (← Reading.document (← tokens? text.toList))

end Document

end TopicBridge.Yaml
