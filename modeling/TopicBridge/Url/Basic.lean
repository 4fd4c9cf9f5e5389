import TopicBridge.Url.Host

/-! # URLs

A URL has a scheme, mostly a host, and a path; it may have a user, a port, a query and a fragment.
-/

namespace TopicBridge

/-- A user and a password. -/
structure UrlUser where
  name : String
  password : Option String
  deriving DecidableEq, Repr

/-- Where a URL leads to. -/
structure Authority where
  user : Option UrlUser
  host : Host
  /-- The port, if it is not the usual one of the scheme. -/
  port : Option Nat
  deriving DecidableEq, Repr

/-- A path: segments, or a text without structure. -/
inductive UrlPath
  | segments (list : List String)
  | plain (text : String)
  deriving DecidableEq, Repr

/-- A URL. -/
structure Url where
  scheme : String
  authority : Option Authority
  path : UrlPath
  query : Option String
  fragment : Option String
  deriving DecidableEq, Repr

namespace Url

/-- The usual port of a scheme. -/
def usualPort? : String → Option Nat
  | "http" => some 80
  | "https" => some 443
  | "ws" => some 80
  | "wss" => some 443
  | "ftp" => some 21
  | _ => none

/-- Whether URLs of a scheme have the parts of an address on the web. -/
def isSpecial (scheme : String) : Bool := scheme == "file" || (usualPort? scheme).isSome

/-- The text of a user with the sign behind it. -/
def renderUser : Option UrlUser → List Char
  | none => []
  | some ⟨name, none⟩ => name.toList ++ ['@']
  | some ⟨name, some password⟩ => name.toList ++ ':' :: password.toList ++ ['@']

/-- The text of a port with the sign in front. -/
def renderPort : Option Nat → List Char
  | none => []
  | some n => ':' :: (toString n).toList

/-- The text of an authority with the signs in front. -/
def renderAuthority : Option Authority → List Char
  | none => []
  | some a => '/' :: '/' :: renderUser a.user ++ a.host.render ++ renderPort a.port

/-- The text of a path. -/
def renderPath : UrlPath → List Char
  | .plain text => text.toList
  | .segments list => list.flatMap fun s => '/' :: s.toList

/-- Keeps an empty first segment from being read as an authority. -/
def guardPath (u : Url) : List Char :=
  match u.authority, u.path with
  | none, .segments ("" :: _ :: _) => ['/', '.']
  | _, _ => []

/-- An optional part with the sign in front. -/
def renderPart (sign : Char) : Option String → List Char
  | none => []
  | some s => sign :: s.toList

/-- The text of a URL. -/
def render (u : Url) : String :=
  String.ofList (u.scheme.toList ++ ':' :: renderAuthority u.authority ++ u.guardPath ++
    renderPath u.path ++ renderPart '?' u.query ++ renderPart '#' u.fragment)

/-- Adds a name and a value to the query. -/
def appendPair (u : Url) (name value : String) : Url :=
  let pair := String.ofList (formPair name value)
  let query :=
    match u.query with
    | none => pair
    | some q => if q.isEmpty then pair else q ++ "&" ++ pair
  { u with query := some query }

end Url

end TopicBridge
