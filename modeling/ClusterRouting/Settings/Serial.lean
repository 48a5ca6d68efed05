import ClusterRouting.Settings

/-! The serial form of settings: an object in which every field may be missing.
The delay is written in whole milliseconds, of which 64 bits are kept. -/

namespace ClusterRouting

namespace Backoff

def name : Backoff → String
  | .fixed => "fixed"
  | .exponential => "exponential"

def ofJson? (json : Json) : Option Backoff :=
  json.choice?.bind fun chosen =>
    [fixed, exponential].find? (·.name == chosen)

end Backoff

namespace RouterOrder

def name : RouterOrder → String
  | .knownRoutersFirst => "known_routers_first"
  | .initialRouterFirst => "initial_router_first"

def ofJson? (json : Json) : Option RouterOrder :=
  json.choice?.bind fun chosen =>
    [knownRoutersFirst, initialRouterFirst].find? (·.name == chosen)

end RouterOrder

namespace Policy

def name : Policy → String
  | .leastConnected => "least_connected"
  | .roundRobin => "round_robin"
  | .random => "random"

def ofJson? (json : Json) : Option Policy :=
  json.choice?.bind fun chosen =>
    [leastConnected, roundRobin, random].find? (·.name == chosen)

end Policy

namespace Duration

def toJson (duration : Duration) : Json :=
  .integer (duration.milliseconds % UInt64.size : Nat)

def ofJson? (json : Json) : Option Duration :=
  (json.natural? UInt64.size).map fun count => .ofMilliseconds (.ofNat count)

end Duration

namespace Settings

def fieldNames : List String :=
  ["max_routing_failures", "retry_timeout_delay", "backoff",
    "initial_router_order", "load_balancing", "routing_context"]

def fieldValues (settings : Settings) : List Json :=
  [.integer settings.maxRoutingFailures.toNat, settings.retryDelay.toJson,
    .text settings.backoff.name, .text settings.routerOrder.name,
    .text settings.policy.name, settings.context.toJson]

def toJson (settings : Settings) : Json :=
  .object (fieldNames.zip settings.fieldValues)

/-- A field that is there has to be readable; one that is missing takes its
standard value. -/
def readField {α : Type} (field : Option Json) (read : Json → Option α)
    (standard : α) : Option α :=
  match field with
  | none => some standard
  | some json => read json

def ofFields? (field : Nat → Option Json) : Option Settings := do
  let standard : Settings := {}
  let maxRoutingFailures ← readField (field 0)
    (fun json => (json.natural? UInt32.size).map UInt32.ofNat)
    standard.maxRoutingFailures
  let retryDelay ← readField (field 1) Duration.ofJson? standard.retryDelay
  let backoff ← readField (field 2) Backoff.ofJson? standard.backoff
  let routerOrder ←
    readField (field 3) RouterOrder.ofJson? standard.routerOrder
  let policy ← readField (field 4) Policy.ofJson? standard.policy
  let context ← readField (field 5) Context.ofJson? standard.context
  some
    { maxRoutingFailures, retryDelay, backoff, routerOrder, policy, context }

/-- Settings from their serial form. Fields with other names are ignored, and
a list of values stands for the first fields in order. -/
def ofJson? : Json → Option Settings
  | .object fields =>
      ofFields? fun index =>
        (fieldNames[index]?).bind (Json.field? fields ·)
  | .list values =>
      if fieldNames.length < values.length then none
      else ofFields? (values[·]?)
  | _ => none

end Settings

end ClusterRouting
