import TopicBridge.Json.Reader

/-! # Reading documents of a known shape

A schema says what a document has to look like. The text is read with the schema at hand, so what is
wrong first, from the left, is reported: that the text is no document, or that a part is not of the
kind asked for. Members that a schema does not name are skipped over, and a text that follows the
document is left alone.
-/

namespace TopicBridge

namespace Json

/-- The shape of a document. -/
inductive Schema
  | text
  | flag
  /-- A natural number up to a limit. -/
  | natural (limit : Nat)
  /-- A truth value, a number or a text. -/
  | scalar
  /-- Something, or `null`. -/
  | optional (item : Schema)
  /-- An object with any keys; the last value of a key counts. -/
  | table (item : Schema)
  /-- An object with these members, each at most once, and whether a member may be left out. The
  members may also stand as an array in this order. -/
  | fields (members : List (String × Bool × Schema))

/-! ## Skipping -/

/-- Skips a text behind its opening quote. -/
def skipText : Nat → List Char → Except Fault (List Char)
  | 0, _ => .error .malformed
  | _ + 1, [] => .error .malformed
  | _ + 1, '"' :: cs => .ok cs
  | fuel + 1, '\\' :: 'u' :: cs =>
    match readHex4 cs with
    | some (_, rest) => skipText fuel rest
    | none => .error .malformed
  | fuel + 1, '\\' :: e :: cs =>
    if (simpleEscape? e).isSome then skipText fuel cs else .error .malformed
  | fuel + 1, c :: cs =>
    if c = '\\' ∨ c.toNat < 0x20 then .error .malformed else skipText fuel cs

/-- Skips the exponent of a number, if there is one. -/
def skipExponent : List Char → Except Fault (List Char)
  | [] => .ok []
  | c :: cs =>
    if c = 'e' ∨ c = 'E' then (readExponent cs).map fun (_, _, rest) => rest else .ok (c :: cs)

/-- Skips a number without its sign, however large. -/
def skipUnsigned (cs : List Char) : Except Fault (List Char) :=
  let ds := cs.takeWhile Char.isDigit
  if ds.isEmpty || (ds.head? = some '0' && 1 < ds.length) then .error .malformed
  else
    match cs.dropWhile Char.isDigit with
    | '.' :: rest =>
      if (rest.takeWhile Char.isDigit).isEmpty then .error .malformed
      else skipExponent (rest.dropWhile Char.isDigit)
    | rest => skipExponent rest

mutual

/-- Skips a value, however deep it is nested. -/
def skipValue : Nat → List Char → Except Fault (List Char)
  | 0, _ => .error .malformed
  | fuel + 1, cs =>
    match skipBlanks cs with
    | [] => .error .malformed
    | 'n' :: rest => expect "ull".toList rest
    | 't' :: rest => expect "rue".toList rest
    | 'f' :: rest => expect "alse".toList rest
    | '"' :: rest => skipText (rest.length + 1) rest
    | '-' :: rest => skipUnsigned rest
    | '[' :: rest =>
      match skipBlanks rest with
      | ']' :: rest => .ok rest
      | rest => skipItems fuel rest
    | '\x7b' :: rest =>
      match skipBlanks rest with
      | '\x7d' :: rest => .ok rest
      | rest => skipMembers fuel rest
    | rest => skipUnsigned rest

/-- Skips the items of an array up to its bracket. -/
def skipItems : Nat → List Char → Except Fault (List Char)
  | 0, _ => .error .malformed
  | fuel + 1, cs =>
    match skipValue fuel cs with
    | .error e => .error e
    | .ok rest =>
      match skipBlanks rest with
      | ']' :: rest => .ok rest
      | ',' :: rest => skipItems fuel rest
      | _ => .error .malformed

/-- Skips the members of an object up to its brace. -/
def skipMembers : Nat → List Char → Except Fault (List Char)
  | 0, _ => .error .malformed
  | fuel + 1, cs =>
    match skipBlanks cs with
    | '"' :: rest =>
      match skipText (rest.length + 1) rest with
      | .error e => .error e
      | .ok rest =>
        match skipBlanks rest with
        | ':' :: rest =>
          match skipValue fuel rest with
          | .error e => .error e
          | .ok rest =>
            match skipBlanks rest with
            | '\x7d' :: rest => .ok rest
            | ',' :: rest => skipMembers fuel rest
            | _ => .error .malformed
        | _ => .error .malformed
    | _ => .error .malformed

end

/-! ## Reading -/

/-- What is wrong with a value that is not of the kind asked for: that it is none, or its kind. -/
def mismatch (cs : List Char) : Fault :=
  match skipBlanks cs with
  | '[' :: _ => .unsuitable
  | '\x7b' :: _ => .unsuitable
  | rest =>
    match readValue (rest.length + 1) 0 rest with
    | .ok _ => .unsuitable
    | .error e => e

/-- Reads a value that is neither array nor object, and takes it if it is suitable. -/
def readLeaf (suits : Json → Bool) (cs : List Char) : Except Fault (Json × List Char) :=
  match skipBlanks cs with
  | '[' :: _ => .error .unsuitable
  | '\x7b' :: _ => .error .unsuitable
  | rest => do
    let (j, rest) ← readValue (rest.length + 1) 0 rest
    if suits j then return (j, rest) else throw .unsuitable

/-- Whether a document is a text. -/
def isText : Json → Bool
  | .text _ => true
  | _ => false

/-- Whether a document is a truth value. -/
def isFlag : Json → Bool
  | .bool _ => true
  | _ => false

/-- Whether a document is a natural number up to a limit. -/
def isNatural (limit : Nat) : Json → Bool
  | .number (.int n) => 0 ≤ n && n ≤ limit
  | _ => false

/-- Whether a document is neither an array nor an object nor `null`. -/
def isScalar : Json → Bool
  | .null => false
  | .array _ => false
  | .object _ => false
  | _ => true

/-- Whether the members that have been read lack one that may not be left out. -/
def lacksMember (members : List (String × Bool × Schema)) (found : List (String × Json)) : Bool :=
  members.any fun (name, mayLack, _) => !mayLack && (lookup? name found).isNone

mutual

/-- Reads the document of a shape that a text starts with, nested at most `depth` deep. -/
def readAs : (fuel depth : Nat) → Schema → List Char → Except Fault (Json × List Char)
  | 0, _, _, _ => .error .malformed
  | _ + 1, _, .text, cs => readLeaf isText cs
  | _ + 1, _, .flag, cs => readLeaf isFlag cs
  | _ + 1, _, .natural limit, cs => readLeaf (isNatural limit) cs
  | _ + 1, depth, .scalar, cs => do
    let (j, rest) ← readValue (2 * cs.length + 2) depth cs
    if isScalar j then return (j, rest) else throw .unsuitable
  | fuel + 1, depth, .optional item, cs =>
    match skipBlanks cs with
    | 'n' :: rest => (expect "ull".toList rest).map fun rest => (.null, rest)
    | rest => readAs fuel depth item rest
  | fuel + 1, depth, .table item, cs =>
    match skipBlanks cs, depth with
    | '\x7b' :: rest, depth + 1 =>
      match skipBlanks rest with
      | '\x7d' :: rest => .ok (.object [], rest)
      | rest => readTable fuel depth item [] rest
    | '\x7b' :: _, 0 => .error .malformed
    | rest, _ => .error (mismatch rest)
  | fuel + 1, depth, .fields members, cs =>
    match skipBlanks cs, depth with
    | '\x7b' :: rest, depth + 1 =>
      match skipBlanks rest with
      | '\x7d' :: rest =>
        if lacksMember members [] then .error .unsuitable else .ok (.object [], rest)
      | rest => readFields fuel depth members [] rest
    | '\x7b' :: _, 0 => .error .malformed
    | '[' :: rest, depth + 1 => readListed fuel depth members true [] rest
    | '[' :: _, 0 => .error .malformed
    | rest, _ => .error (mismatch rest)

/-- Reads the members of a table up to its brace. -/
def readTable : (fuel depth : Nat) → Schema → (acc : List (String × Json)) → List Char →
    Except Fault (Json × List Char)
  | 0, _, _, _, _ => .error .malformed
  | fuel + 1, depth, item, acc, cs =>
    match skipBlanks cs with
    | '"' :: rest => do
      let (k, rest) ← readText rest
      match skipBlanks rest with
      | ':' :: rest =>
        let (j, rest) ← readAs fuel depth item rest
        match skipBlanks rest with
        | '\x7d' :: rest => return (.ofMembers ((k, j) :: acc).reverse, rest)
        | ',' :: rest => readTable fuel depth item ((k, j) :: acc) rest
        | _ => throw .malformed
      | _ => throw .malformed
    | _ => .error .malformed

/-- Reads named members up to the brace. -/
def readFields : (fuel depth : Nat) → List (String × Bool × Schema) →
    (acc : List (String × Json)) → List Char → Except Fault (Json × List Char)
  | 0, _, _, _, _ => .error .malformed
  | fuel + 1, depth, members, acc, cs =>
    match skipBlanks cs with
    | '"' :: rest => do
      let (k, rest) ← readText rest
      if (lookup? k acc).isSome then throw .unsuitable
      match skipBlanks rest with
      | ':' :: rest =>
        let (acc, rest) ←
          match lookup? k members with
          | some (_, schema) =>
            let (j, rest) ← readAs fuel depth schema rest
            pure ((k, j) :: acc, rest)
          | none =>
            let rest ← skipValue (2 * rest.length + 2) rest
            pure (acc, rest)
        match skipBlanks rest with
        | '\x7d' :: rest =>
          if lacksMember members acc then throw .unsuitable else return (.ofMembers acc, rest)
        | ',' :: rest => readFields fuel depth members acc rest
        | _ => throw .malformed
      | _ => throw .malformed
    | _ => .error .malformed

/-- Reads members by position up to the bracket. -/
def readListed : (fuel depth : Nat) → List (String × Bool × Schema) → (first : Bool) →
    (acc : List (String × Json)) → List Char → Except Fault (Json × List Char)
  | 0, _, _, _, _, _ => .error .malformed
  | _ + 1, _, [], _, acc, cs =>
    match skipBlanks cs with
    | ']' :: rest => .ok (.ofMembers acc, rest)
    | _ => .error .malformed
  | fuel + 1, depth, (name, mayLack, schema) :: members, first, acc, cs =>
    match skipBlanks cs with
    | ']' :: rest =>
      if mayLack && members.all (·.2.1) then .ok (.ofMembers acc, rest) else .error .unsuitable
    | rest => do
      let rest ←
        if first then pure rest
        else
          match rest with
          | ',' :: rest => pure rest
          | _ => throw .malformed
      let (j, rest) ← readAs fuel depth schema rest
      readListed fuel depth members false ((name, j) :: acc) rest

end

/-- Reads the document of a shape that a text starts with. -/
def readFrontAs (schema : Schema) (cs : List Char) : Except Fault (Json × List Char) :=
  readAs (2 * cs.length + 2) depthLimit schema cs

/-- The document of a shape that a text is, if it is one. -/
def parseAs? (schema : Schema) (s : String) : Option Json :=
  match readFrontAs schema s.toList with
  | .ok (j, rest) => if (skipBlanks rest).isEmpty then some j else none
  | .error _ => none

end Json

end TopicBridge
