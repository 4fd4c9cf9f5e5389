import TopicBridge.Http.Exchange
import TopicBridge.Http.MediaType
import TopicBridge.Json.Schema
import TopicBridge.Product
import TopicBridge.Source.Gate
import TopicBridge.Stats

/-! # The service

Messages are published with requests, and requests tell how the bridge is doing.
-/

namespace TopicBridge.Http

/-- What the server knows. -/
structure Service where
  config : Config
  gate : Gate
  stats : Stats
  deriving DecidableEq, Repr

/-- The service of a configuration and its rules. -/
def Service.new (config : Config) (rules : RuleSet) : Service :=
  ⟨config, .ofRules config.topicPrefix (.bounded config.queueCapacity) rules, .zero⟩

/-- The service that a configuration asks for, with the rules that its entries are bound to. -/
def Service.ofConfig (config : Config) : Service := .new config (.ofEntries config.ruleEntries)

/-! ## Publishing -/

/-- A message to be published, under its full topic. -/
structure Publication where
  topic : String
  payload : String
  qos : Nat
  retain : Bool
  deriving DecidableEq, Repr

namespace Publication

/-- The shape of a publication as a document. -/
def schema : Json.Schema :=
  .fields [("topic", false, .text), ("payload", true, .text), ("qos", true, .natural 255),
    ("retain", true, .flag)]

/-- The text under a key. -/
def textOf (j : Json) (key : String) : String :=
  match j.get? key with
  | some (.text s) => s
  | _ => ""

/-- The publication that a document of the right shape is. -/
def ofJson (j : Json) : Publication where
  topic := textOf j "topic"
  payload := textOf j "payload"
  qos :=
    match j.get? "qos" with
    | some (.number (.int n)) => n.toNat
    | _ => 0
  retain :=
    match j.get? "retain" with
    | some (.bool b) => b
    | _ => false

/-- The characters of a body. One that is not well formed ends at what is broken with a character
that no document holds. -/
def bodyText (body : List UInt8) : List Char :=
  match Text.Utf8.decode? body with
  | some s => s.toList
  | none => Text.Utf8.decodeFront body ++ ['\x00']

/-- Reads a publication from the front of a body. -/
def read (body : List UInt8) : Except Json.Fault Publication :=
  match Json.readFrontAs schema (bodyText body) with
  | .ok (j, _) => .ok (ofJson j)
  | .error fault => .error fault

end Publication

/-- The greatest length of a body in bytes. -/
def bodyLimit : Nat := 2 * 1024 * 1024

/-- The publication of a request, or the answer that there is none. -/
def readPublication (r : Request) : Except Response Publication :=
  if !((r.contentType.bind MediaType.ofText?).map MediaType.isJson).getD false then
    .error (.plain 415 "Expected request with \x60Content-Type: application/json\x60")
  else if bodyLimit < r.body.length then
    .error (.plain 413 "Failed to buffer the request body: length limit exceeded")
  else
    match Publication.read r.body with
    | .ok p => .ok p
    | .error .malformed => .error (.plain 400 "Failed to parse the request body as JSON")
    | .error .unsuitable =>
      .error (.plain 422 "Failed to deserialize the JSON body into the target type")

/-- The answer to a publication. -/
def publishedJson (accepted : Bool) (topic : String) : Json :=
  .object [("accepted", .bool accepted), ("topic", .text topic)]

/-- What becomes of a request: an answer, or a wait for room in the queue. -/
inductive Outcome
  | answered (response : Response) (service : Service)
  | waits
  deriving DecidableEq, Repr

/-- The answer to what became of a publication at the gate. -/
def ofAdmission (s : Service) (topic : String) : Gate.Admission → Outcome
  | .queued g => .answered (.json 202 (publishedJson true topic)) { s with gate := g }
  | .unsubscribed => .answered (.json 200 (publishedJson false topic)) s
  | .waits => .waits
  | .refused cause => .answered (ofSourceFault cause) s

/-- What is told about what became of a publication at the gate. -/
def admissionEvents (topic : String) (a : Gate.Admission) : List Event :=
  Gate.acceptEvents topic a ++
    match a with
    | .queued _ => [.publishHandled topic true]
    | .unsubscribed => [.publishHandled topic false]
    | .waits => []
    | .refused cause => [.requestFailed (statusLine (ofSourceFault cause).status) cause]

namespace Service

/-- Brings a publication to the gate. -/
def bring (s : Service) (p : Publication) : Gate.Admission :=
  s.gate.accept p.topic (Text.Utf8.encode p.payload) p.qos p.retain

/-- Publishes a message. -/
def publish (s : Service) (r : Request) : Outcome :=
  match readPublication r with
  | .error response => .answered response s
  | .ok p => ofAdmission s p.topic (s.bring p)

/-- What is told about publishing a message. -/
def publishEvents (s : Service) (r : Request) : List Event :=
  match readPublication r with
  | .error _ => []
  | .ok p => admissionEvents p.topic (s.bring p)

/-! ## Pages -/

/-- Where records go. -/
def sinkLine (s : Service) : String :=
  match s.config.influx with
  | some i => "InfluxDB " ++ i.url ++ " (database " ++ i.database ++ ")"
  | none => "log only"

/-- A subscription on the page. -/
def subscriptionLine (s : Service) (filter : String) : String :=
  "        <li><code>" ++ s.gate.lead ++ filter ++ "</code></li>\n"

/-- The page that presents the bridge. -/
def page (s : Service) : String :=
  "<!DOCTYPE html>\n<html>\n<head>\n    <title>" ++ Product.name ++
  "</title>\n</head>\n<body>\n    <h1>" ++ Product.name ++ "</h1>\n    <p>Version: " ++
  Product.version ++ "</p>\n    <p>Sink: " ++ s.sinkLine ++ "</p>\n    <p>Queue capacity: " ++
  toString s.config.queueCapacity ++ "</p>\n    <ul>\n" ++
  "        <li><a href=\"/health\">Health Check</a></li>\n" ++
  "        <li><a href=\"/stats\">Statistics</a></li>\n" ++
  "    </ul>\n    <h2>Subscriptions</h2>\n    <ul>\n" ++
  String.join (s.gate.filters.map s.subscriptionLine) ++ "    </ul>\n</body>\n</html>"

/-- How the bridge is doing. -/
def healthJson : Json :=
  .object [("status", .text "healthy"), ("version", .text Product.version)]

/-! ## Requests -/

/-- Answers a request for something to read. -/
def present (s : Service) (response : Response) (r : Request) : Outcome :=
  if r.method = "GET" then .answered response s
  else if r.method = "HEAD" then .answered response.headOnly s
  else .answered (.notAllowed "GET,HEAD") s

/-- Answers a request. -/
def handle (s : Service) (r : Request) : Outcome :=
  match r.path with
  | "/" => s.present (.page s.page) r
  | "/health" => s.present (.json 200 healthJson) r
  | "/stats" => s.present (.json 200 s.stats.toJson) r
  | "/publish" =>
    if r.method = "POST" then s.publish r else .answered (.notAllowed "POST") s
  | _ => .answered (.bare 404) s

/-- What is told about a request. -/
def handleEvents (s : Service) (r : Request) : List Event :=
  if r.path = "/publish" ∧ r.method = "POST" then s.publishEvents r else []

end Service

end TopicBridge.Http
