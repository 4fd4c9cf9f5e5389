import TopicBridge.Url.Basic

/-! # Reading URLs

Blanks around a URL and line breaks and tabs inside are passed over. What follows the scheme depends
on it: under a known scheme there is a host, however many slashes stand in front of it; under another
scheme there is one only behind two slashes. The steps `.` and `..` of a path are taken at once.
-/

namespace TopicBridge

namespace Url

/-- A text without control characters and blanks at its ends and without tabs and line breaks. -/
def tidy (s : List Char) : List Char :=
  let isEdge := fun c : Char => decide (c.toNat ≤ 0x20)
  (((s.dropWhile isEdge).reverse.dropWhile isEdge).reverse).filter fun c =>
    !(['\t', '\n', '\r'].contains c)

/-- Whether a character may stand in a scheme behind its first letter. -/
def isSchemeChar (c : Char) : Bool := c.isAlphanum || ['+', '-', '.'].contains c

/-- The scheme that a text starts with, in lower case, and what follows the colon. -/
def cutScheme? (cs : List Char) : Option (String × List Char) :=
  match cs with
  | c :: _ =>
    if c.isAlpha then
      match cs.dropWhile isSchemeChar with
      | ':' :: rest =>
        some (String.ofList ((cs.takeWhile isSchemeChar).map Char.toLower), rest)
      | _ => none
    else none
  | [] => none

/-- Whether a character is a slash; under a known scheme a backslash is one too. -/
def isSlash (special : Bool) (c : Char) : Bool := c == '/' || (special && c == '\\')

/-! ## Authority -/

/-- Splits an authority behind its last at sign: the user's part, if there is one, and the rest. -/
def cutUser (cs : List Char) : Option (List Char) × List Char :=
  if cs.contains '@' then
    (some ((cs.reverse.dropWhile (· ≠ '@')).drop 1).reverse,
      (cs.reverse.takeWhile (· ≠ '@')).reverse)
  else (none, cs)

/-- The user that a part in front of the at sign names. -/
def readUser (cs : List Char) : Option UrlUser :=
  let name := String.ofList (encode userMarks (cs.takeWhile (· ≠ ':')))
  let password := String.ofList (encode userMarks ((cs.dropWhile (· ≠ ':')).drop 1))
  if password.isEmpty then if name.isEmpty then none else some ⟨name, none⟩
  else some ⟨name, some password⟩

/-- Splits a host from its port, at the first colon outside of brackets. -/
def cutPort : (inside : Bool) → List Char → List Char × Option (List Char)
  | _, [] => ([], none)
  | inside, c :: cs =>
    if c = ':' ∧ inside = false then ([], some cs)
    else
      let (host, port) := cutPort (if c = '[' then true else if c = ']' then false else inside) cs
      (c :: host, port)

/-- Reads a port; the usual one of the scheme counts as none. -/
def readPort (scheme : String) (cs : List Char) : Except UrlFault (Option Nat) :=
  if !cs.all Char.isDigit then .error .invalidPort
  else
    let n := Host.baseValue 10 cs
    if 65535 < n then .error .invalidPort
    else .ok (if cs.isEmpty ∨ usualPort? scheme = some n then none else some n)

/-- Reads an authority; `followed` says that a path, a query or a fragment comes behind it. -/
def readAuthority (scheme : String) (followed : Bool) (cs : List Char) :
    Except UrlFault Authority := do
  let special := isSpecial scheme
  let (userPart, rest) := cutUser cs
  let user := userPart.bind readUser
  let (hostPart, portPart) := cutPort false rest
  if special ∧ hostPart.isEmpty then throw .emptyHost
  let host ← if special then Host.readKnown hostPart else Host.readOther hostPart
  if hostPart.isEmpty ∧ (portPart.isSome ∨ user.isSome ∨ (userPart = some [] ∧ followed)) then
    throw .emptyHost
  let port ← match portPart with
    | none => pure none
    | some cs => readPort scheme cs
  return ⟨user, host, port⟩

/-! ## Path -/

/-- Whether a segment stays where it is. -/
def isHere (segment : List Char) : Bool :=
  [".".toList, "%2e".toList].contains (segment.map Char.toLower)

/-- Whether a segment goes one step back. -/
def isBack (segment : List Char) : Bool :=
  ["..".toList, ".%2e".toList, "%2e.".toList, "%2e%2e".toList].contains (segment.map Char.toLower)

/-- Takes one step along a path; `last` says that no slash follows. -/
def walkPath (path : List String) (segment : List Char) (last : Bool) : List String :=
  if isBack segment then path.dropLast ++ if last then [""] else []
  else if isHere segment then path ++ if last then [""] else []
  else path ++ [String.ofList (encode pathMarks segment)]

/-- Takes all steps along a path. -/
def walkAll (path : List String) : List (List Char) → List String
  | [] => path
  | [segment] => walkPath path segment true
  | segment :: rest => walkAll (walkPath path segment false) rest

/-- The segments between slashes. -/
def segmentsOf (special : Bool) (cs : List Char) : List (List Char) :=
  Text.split '/' (cs.map fun c => if isSlash special c then '/' else c)

/-- Reads a path behind an authority, or one that starts with a slash. -/
def readPath (special : Bool) (cs : List Char) : List String :=
  match cs with
  | [] => if special then [""] else []
  | c :: rest => walkAll [] (segmentsOf special (if isSlash special c then rest else cs))

/-! ## Query and fragment -/

/-- Splits a text at its first fragment sign. -/
def cutFragment (cs : List Char) : List Char × Option (List Char) :=
  match cs.dropWhile (· ≠ '#') with
  | [] => (cs, none)
  | _ :: fragment => (cs.takeWhile (· ≠ '#'), some fragment)

/-- Splits a text at its first query sign. -/
def cutQuery (cs : List Char) : List Char × Option (List Char) :=
  match cs.dropWhile (· ≠ '?') with
  | [] => (cs, none)
  | _ :: query => (cs.takeWhile (· ≠ '?'), some query)

/-! ## URLs -/

/-- Whether a segment is a letter and a colon, the root of a file system. -/
def isDrive (segment : List Char) : Bool :=
  match segment with
  | [c, d] => c.isAlpha && (d == ':' || d == '|')
  | _ => false

/-- The path of a file, without empty segments in front. -/
def readFilePath (cs : List Char) : UrlPath :=
  let segments := (readPath true cs).dropWhile String.isEmpty
  .segments (if segments.isEmpty then [""] else segments)

/-- The authority of a file on a host. -/
def fileAuthority (host : Host) : Option Authority := some ⟨none, host, none⟩

/-- Reads what follows the scheme of a file: the host, if two slashes stand in front, and the path.
The local host counts as none. -/
def readFile (cs : List Char) : Except UrlFault (Option Authority × UrlPath) :=
  match cs with
  | a :: b :: rest =>
    if isSlash true a && isSlash true b then
      let hostPart := rest.takeWhile fun c => !isSlash true c
      let path := readFilePath (rest.dropWhile fun c => !isSlash true c)
      if hostPart.isEmpty then .ok (fileAuthority (.domain ""), path)
      else if isDrive hostPart then .ok (fileAuthority (.domain ""), readFilePath rest)
      else
        match Host.readKnown hostPart with
        | .error fault => .error fault
        | .ok host =>
          .ok (fileAuthority (if host = .domain "localhost" then .domain "" else host), path)
    else .ok (fileAuthority (.domain ""), readFilePath cs)
  | cs => .ok (fileAuthority (.domain ""), readFilePath cs)

/-- Reads an authority and the path behind it; `followed` says that more comes behind both. -/
def readLocated (scheme : String) (followed : Bool) (cs : List Char) :
    Except UrlFault (Option Authority × UrlPath) := do
  let special := isSpecial scheme
  let path := cs.dropWhile fun c => !isSlash special c
  let authority ← readAuthority scheme (followed || !path.isEmpty)
    (cs.takeWhile fun c => !isSlash special c)
  return (some authority, .segments (readPath special path))

/-- Reads what stands between the scheme and the query; `followed` says that a query or a fragment
comes behind it. -/
def readPlace (scheme : String) (followed : Bool) (cs : List Char) :
    Except UrlFault (Option Authority × UrlPath) :=
  if scheme = "file" then readFile cs
  else if isSpecial scheme then readLocated scheme followed (cs.dropWhile (isSlash true))
  else
    match cs with
    | '/' :: '/' :: rest => readLocated scheme followed rest
    | '/' :: rest => .ok (none, .segments (readPath false ('/' :: rest)))
    | cs => .ok (none, .plain (String.ofList (encode [] cs)))

/-- Reads a URL. -/
def parse (s : String) : Except UrlFault Url := do
  let some (scheme, rest) := cutScheme? (tidy s.toList) | throw .relative
  let (rest, fragment) := cutFragment rest
  let (place, query) := cutQuery rest
  let (authority, path) ← readPlace scheme (query.isSome || fragment.isSome) place
  return {
    scheme, authority, path
    query := query.map fun q => String.ofList (encode (queryMarks (isSpecial scheme)) q)
    fragment := fragment.map fun f => String.ofList (encode fragmentMarks f) }

end Url

end TopicBridge
