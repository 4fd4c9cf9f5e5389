import TopicBridge.Json.Writer
import TopicBridge.Source.Fault

/-! # Requests and responses

What a client asks the server, and what the server answers.
-/

namespace TopicBridge.Http

/-- What a client asks. -/
structure Request where
  method : String
  /-- The path, and a query behind a question mark. -/
  target : String
  contentType : Option String
  body : List UInt8
  deriving DecidableEq, Repr

/-- The path of a request. -/
def Request.path (r : Request) : String := String.ofList (r.target.toList.takeWhile (· ≠ '?'))

/-- What the server answers. -/
structure Response where
  status : Nat
  contentType : Option String
  /-- The methods that a path is for, where a request has another one. -/
  allow : Option String
  body : String
  deriving DecidableEq, Repr

/-- What a status means. -/
def reason : Nat → String
  | 200 => "OK"
  | 202 => "Accepted"
  | 400 => "Bad Request"
  | 404 => "Not Found"
  | 405 => "Method Not Allowed"
  | 413 => "Payload Too Large"
  | 415 => "Unsupported Media Type"
  | 422 => "Unprocessable Entity"
  | 503 => "Service Unavailable"
  | _ => ""

/-- A status with what it means. -/
def statusLine (status : Nat) : String := toString status ++ " " ++ reason status

namespace Response

/-- An answer without body. -/
def bare (status : Nat) : Response := ⟨status, none, none, ""⟩

/-- The answer that a path is not for the method of a request. -/
def notAllowed (allow : String) : Response := ⟨405, none, some allow, ""⟩

/-- A document as an answer. -/
def json (status : Nat) (j : Json) : Response := ⟨status, some "application/json", none, j.render⟩

/-- A text as an answer. -/
def plain (status : Nat) (text : String) : Response :=
  ⟨status, some "text/plain; charset=utf-8", none, text⟩

/-- A page as an answer. -/
def page (text : String) : Response := ⟨200, some "text/html; charset=utf-8", none, text⟩

/-- An answer of which only the head is asked for. -/
def headOnly (r : Response) : Response := { r with body := "" }

end Response

/-- The answer to what a source turns away. -/
def ofSourceFault : SourceFault → Response
  | .outsidePrefix .. => .plain 400 "Topic outside prefix"
  | .invalidFilter _ => .plain 400 "Invalid filter"
  | .closed => .plain 503 "Shutting down"

end TopicBridge.Http
