import TopicBridge.Config.Basic

/-! # Decoding configurations

A configuration is decoded in the same way from every notation. What a notation has to offer is a
view of its nodes: which of them are texts, numbers, lists and so on.
-/

namespace TopicBridge

/-- A notation for configurations, given by what its nodes can be read as. -/
class ConfigNode (δ : Type) where
  text? : δ → Option String
  flag? : δ → Option Bool
  /-- A natural number up to a limit. -/
  natural? : Nat → δ → Option Nat
  /-- A truth value, a number or a text. -/
  scalar? : δ → Option Value
  /-- Whether a node says that there is no value; `none` if it contradicts itself. -/
  absent? : δ → Option Bool
  items? : δ → Option (List δ)
  /-- Members with any keys; the last one of a key counts. -/
  entries? : δ → Option (List (String × δ))
  /-- Members with the given keys, each at most once, others being ignored. A key comes with whether
  it may be left out where the members are given by position. -/
  fields? : List (String × Bool) → δ → Option (List (String × δ))

namespace Config

open ConfigNode

variable {δ : Type} [ConfigNode δ] {α : Type}

/-- Reads a node, or says that there is no value. -/
def optional (read : δ → Option α) (d : δ) : Option (Option α) := do
  if ← absent? d then return none else return some (← read d)

/-- Reads the members of a node, all in the same way. -/
def table? (read : δ → Option α) (d : δ) : Option (Table α) := do
  return .ofList (← (← entries? d).mapM fun (k, d) => return (k, ← read d))

/-- Reads the items of a node. -/
def list? (read : δ → Option α) (d : δ) : Option (List α) := do (← items? d).mapM read

/-- Reads a member, or takes a default if there is none. -/
def member (members : List (String × δ)) (key : String) (default : α) (read : δ → Option α) :
    Option α :=
  match lookup? key members with
  | some d => read d
  | none => some default

/-- Reads a member that may be missing or say that there is no value. -/
def optionalMember (members : List (String × δ)) (key : String) (read : δ → Option α) :
    Option (Option α) :=
  member members key none (optional read)

/-- Reads a member that has to be there. -/
def requiredMember (members : List (String × δ)) (key : String) (read : δ → Option α) : Option α :=
  match lookup? key members with
  | some d => read d
  | none => none

/-- Decodes a part to take out of payloads. -/
def extractEntry? (d : δ) : Option ExtractEntry := do
  let ms ← fields? [("json", false), ("type", true)] d
  return ⟨← requiredMember ms "json" text?, ← optionalMember ms "type" text?⟩

/-- Decodes what a rule does with payloads. -/
def payloadEntry? (d : δ) : Option PayloadEntry := do
  let ms ← fields?
    [("name", true), ("field", true), ("type", true), ("json", true), ("extract", true)] d
  return {
    name := ← member ms "name" defaultPayloadName text?
    field := ← member ms "field" false flag?
    kind := ← optionalMember ms "type" text?
    path := ← optionalMember ms "json" text?
    extract := ← member ms "extract" .empty (table? extractEntry?) }

/-- Decodes what a rule does with a token. -/
def tokenEntry? (d : δ) : Option TokenEntry := do
  let ms ← fields?
    [("rule", true), ("field_name", true), ("tag_name", true), ("field", true), ("tag", true),
      ("measurement", true), ("field_map", true), ("tag_map", true)] d
  return {
    rule := ← optionalMember ms "rule" text?
    fieldName := ← optionalMember ms "field_name" text?
    tagName := ← optionalMember ms "tag_name" text?
    field := ← member ms "field" false flag?
    tag := ← member ms "tag" false flag?
    measurement := ← member ms "measurement" false flag?
    fieldMap := ← member ms "field_map" .empty (table? scalar?)
    tagMap := ← member ms "tag_map" .empty (table? scalar?) }

/-- Decodes an entry of the list of rules. -/
def ruleEntry? (d : δ) : Option RuleEntry := do
  let ms ← fields?
    [("topic", false), ("retain", true), ("disable_write", true), ("measurement", true),
      ("payload", true), ("fields", true), ("tags", true), ("tokens", true)] d
  return {
    topic := ← optionalMember ms "topic" text?
    retain := ← member ms "retain" false flag?
    disableWrite := ← member ms "disable_write" false flag?
    measurement := ← optionalMember ms "measurement" scalar?
    payload := ← optionalMember ms "payload" payloadEntry?
    fields := ← optionalMember ms "fields" (table? scalar?)
    tags := ← optionalMember ms "tags" (table? scalar?)
    tokens := ← optionalMember ms "tokens" (table? tokenEntry?) }

/-- Decodes where records are written to. -/
def influxSettings? (d : δ) : Option InfluxSettings := do
  let ms ← fields?
    [("url", true), ("database", false), ("username", false), ("password", false),
      ("timeout_ms", true), ("max_retries", true)] d
  return {
    url := ← member ms "url" InfluxSettings.defaultUrl text?
    database := ← requiredMember ms "database" text?
    username := ← optionalMember ms "username" text?
    password := ← optionalMember ms "password" text?
    timeoutMs := ← member ms "timeout_ms" InfluxSettings.defaultTimeoutMs
      (natural? 0xffffffffffffffff)
    maxRetries := ← member ms "max_retries" InfluxSettings.defaultMaxRetries
      (natural? 0xffffffff) }

/-- Decodes where the server listens. -/
def serverSettings? (d : δ) : Option ServerSettings := do
  let ms ← fields? [("port", true), ("bind_address", true)] d
  return ⟨← member ms "port" ServerSettings.defaultPort (natural? 0xffff),
    ← member ms "bind_address" ServerSettings.defaultBindAddress text?⟩

/-- Decodes what topics start with. -/
def topicPrefix? (d : δ) : Option String := do
  member (← fields? [("prefix", true)] d) "prefix" "" text?

/-- Decodes how many messages may wait. -/
def queueCapacity? (d : δ) : Option Nat := do
  member (← fields? [("queue_capacity", true)] d) "queue_capacity" defaultQueueCapacity
    (natural? 0xffffffffffffffff)

/-- Decodes a configuration. -/
def decode? (d : δ) : Option Config := do
  let ms ← fields?
    [("mqtt", true), ("influxdb", true), ("server", true), ("engine", true), ("rules", true)] d
  return {
    topicPrefix := ← member ms "mqtt" "" topicPrefix?
    influx := ← optionalMember ms "influxdb" influxSettings?
    server := ← member ms "server" .standard serverSettings?
    queueCapacity := ← member ms "engine" defaultQueueCapacity queueCapacity?
    rules := ← optionalMember ms "rules" (list? ruleEntry?) }

end Config

end TopicBridge
