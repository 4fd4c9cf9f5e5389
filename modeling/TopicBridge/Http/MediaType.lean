import TopicBridge.Text.Split

/-! # Media types

What the body of a request is said to be: a type and a subtype with a slash between them, and
parameters behind semicolons.
-/

namespace TopicBridge.Http

/-- A character of a type, of a subtype and of the name of a parameter. -/
def isTokenChar (c : Char) : Bool :=
  c.isAlphanum || "!#$%&'*+-.^_\x60|~".toList.contains c

/-- A character of a quoted value. -/
def isQuotedChar (c : Char) : Bool := 0x20 ≤ c.toNat && c.toNat ≤ 0x7e && c ≠ '"' && c ≠ '\\'

/-- Reads what follows a quoted value: blanks, and a semicolon unless nothing else follows. -/
def afterQuoted? : List Char → Option (List Char)
  | [] => some []
  | ' ' :: cs => afterQuoted? cs
  | ';' :: cs => some cs
  | _ :: _ => none

/-- Reads the value of a parameter. -/
def afterValue? (cs : List Char) : Option (List Char) :=
  match cs with
  | '"' :: rest =>
    match rest.dropWhile isQuotedChar with
    | '"' :: rest => afterQuoted? rest
    | _ => none
  | _ =>
    match cs.dropWhile isTokenChar with
    | [] => some []
    | ';' :: rest => if (cs.takeWhile isTokenChar).isEmpty then none else some rest
    | _ => none

/-- Whether a text is a list of parameters; at most `fuel` of them are read. -/
def areParameters : Nat → List Char → Bool
  | 0, _ => false
  | fuel + 1, cs =>
    match cs.dropWhile (· = ' ') with
    | [] => true
    | cs =>
      match cs.takeWhile isTokenChar, cs.dropWhile isTokenChar with
      | _ :: _, '=' :: rest =>
        match afterValue? rest with
        | some rest => areParameters fuel rest
        | none => false
      | _, _ => false

/-- A media type without its parameters. -/
structure MediaType where
  type : String
  subtype : String
  deriving DecidableEq, Repr

/-- The media type that a text is, in lower case. -/
def MediaType.ofText? (s : String) : Option MediaType :=
  let cs := s.toList
  match cs.takeWhile isTokenChar, cs.dropWhile isTokenChar with
  | type@(_ :: _), '/' :: rest =>
    let subtype := rest.takeWhile isTokenChar
    let result : MediaType :=
      ⟨String.ofList (type.map Char.toLower), String.ofList (subtype.map Char.toLower)⟩
    match rest.dropWhile isTokenChar with
    | [] => some result
    | ';' :: rest =>
      if subtype.isEmpty || !areParameters (rest.length + 1) rest then none else some result
    | _ => none
  | _, _ => none

/-- Whether a media type is that of documents, by its subtype or by the suffix of it. -/
def MediaType.isJson (m : MediaType) : Bool :=
  let parts := Text.split '+' m.subtype.toList
  let suffix := (parts.getLast?.map String.ofList).getD ""
  let front := String.ofList (Text.join '+' parts.dropLast)
  m.type == "application" && (suffix == "json" || front == "json")

end TopicBridge.Http
