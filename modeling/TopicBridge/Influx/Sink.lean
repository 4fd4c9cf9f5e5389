import TopicBridge.Config.Basic
import TopicBridge.Influx.Retry
import TopicBridge.Text.Base64
import TopicBridge.Url.Parser

/-! # Writing to a server

Records are written as lines in the body of a request to the write address of a database. How a
request reaches the server is left open.
-/

namespace TopicBridge.Influx

/-- A request that writes lines. -/
structure WriteRequest where
  url : Url
  authorization : Option String
  body : String
  deriving DecidableEq, Repr

/-- What comes back for a request. -/
inductive Response
  | answered (status : Nat) (body : String)
  | timedOut
  /-- No connection was made. -/
  | unreachable (detail : String)
  /-- The connection broke before an answer came. -/
  | interrupted (detail : String)
  deriving DecidableEq, Repr

/-- A way to send requests. Time may pass between them. -/
structure Transport (σ : Type) where
  send : σ → WriteRequest → Response × σ
  /-- What a delay in nanoseconds changes. -/
  wait : σ → Nat → σ := fun s _ => s

/-- Where and how to write. -/
structure Endpoint where
  writeUrl : Url
  /-- The name and the password of the user. -/
  credentials : Option (String × String)
  policy : RetryPolicy
  deriving DecidableEq, Repr

/-- A text without the slashes at its end. -/
def trimSlashes (s : List Char) : List Char := (s.reverse.dropWhile (· = '/')).reverse

/-- The address that lines for a database are written to. -/
def resolveWriteUrl (base database : String) : Except SinkFault Url :=
  match Url.parse (String.ofList (trimSlashes base.toList ++ "/write".toList)) with
  | .ok u => .ok (u.appendPair "db" database)
  | .error cause => .error (.invalidUrl base cause)

namespace Endpoint

/-- The endpoint for a database of a server. -/
def new (base database : String) : Except SinkFault Endpoint :=
  (resolveWriteUrl base database).map fun u => ⟨u, none, .standard⟩

/-- The endpoint that settings describe. A user without password has an empty one. -/
def ofSettings (s : InfluxSettings) : Except SinkFault Endpoint :=
  (resolveWriteUrl s.url s.database).map fun u =>
    ⟨u, s.username.map fun name => (name, s.password.getD ""),
      { RetryPolicy.standard with maxRetries := s.maxRetries }⟩

/-- What a request says about the user. -/
def authorization (e : Endpoint) : Option String :=
  e.credentials.map fun (name, password) =>
    "Basic " ++ String.ofList (Text.Base64.encode (Text.Utf8.encode (name ++ ":" ++ password)))

/-- The request that writes lines. -/
def request (e : Endpoint) (body : String) : WriteRequest := ⟨e.writeUrl, e.authorization, body⟩

end Endpoint

/-- Whether a status says that the request was carried out. -/
def isSuccess (status : Nat) : Bool := 200 ≤ status && status ≤ 299

/-- What a response means for the lines. -/
def Response.answer : Response → Answer
  | answered status body => if isSuccess status then .accepted else .refused (.status status body)
  | timedOut => .refused .timedOut
  | unreachable detail => .refused (.unreachable detail)
  | interrupted detail => .refused (.interrupted detail)

variable {σ : Type} (e : Endpoint) (t : Transport σ)

/-- Sends lines once. -/
def sendLines (body : String) (s : σ) : Reply σ :=
  let (response, s) := t.send s (e.request body)
  ⟨response.answer, [.sendingLines], s⟩

/-- Sends lines, and again if that may help. -/
def sendWithRetry (body : String) (s : σ) : Attempts σ :=
  retry e.policy (sendLines e t body) t.wait (e.policy.maxRetries + 1) 0 e.policy.initialDelay
    none s

/-- What came of attempts, without the delays. -/
def Attempts.reply (a : Attempts σ) : Reply σ := ⟨a.answer, a.events, a.state⟩

/-- Sends what has a line, if it has one. -/
def sendEncoded (encoded : Except LineFault String) (s : σ) : Reply σ :=
  match encoded with
  | .ok body => (sendWithRetry e t body s).reply
  | .error cause => ⟨.refused (.unwritable cause), [], s⟩

/-- Writes a record. -/
def write (s : σ) (r : Record) : Reply σ := sendEncoded e t r.line s

/-- Writes records in one request; without records there is nothing to do. -/
def writeBatch (s : σ) (rs : List Record) : Reply σ :=
  if rs.isEmpty then ⟨.accepted, [], s⟩ else sendEncoded e t (Record.batch rs) s

/-- The sink that writes to a server. -/
def sink : Sink σ := ⟨write e t⟩

end TopicBridge.Influx
