import ClusterRouting.Context
import ClusterRouting.Request

/-! Routing procedures: the query that asks a router for the members of the
cluster, chosen by the version of its server. -/

namespace ClusterRouting

structure Procedure where
  query : String
  parameters : List (String × Value)

namespace Procedure

def getRoutingTable : String :=
  "CALL dbms.cluster.routing.getRoutingTable($context)"

def getServers : String :=
  "CALL dbms.cluster.routing.getServers()"

def contextParameter : String :=
  "context"

def forVersion (context : Context) (version? : Option Version) : Procedure :=
  let recent : Procedure :=
    ⟨getRoutingTable, [(contextParameter, context.toValue)]⟩
  match version? with
  | some version =>
      if version.isBefore .contextual then ⟨getServers, []⟩ else recent
  | none => recent

/-- What a router answered. A router that refuses the call because the caller
is at fault has answered too: it knows no such procedure, or is no cluster. -/
structure Response where
  query : String
  result : Except Error (List Record)

def isRefusal : Error → Bool
  | .configuration _ => false
  | error => error.isClient && !error.isSecurity

/-- What the outcomes of the query and of the release after it amount to. A
failing release matters only if the query succeeded. -/
def conclude (query : String) (ran : Except Error (List Record))
    (released : Except Error Unit) : Except Error Response :=
  match ran with
  | .ok records =>
      match released with
      | .ok () => .ok ⟨query, .ok records⟩
      | .error error => .error error
  | .error error =>
      if isRefusal error then .ok ⟨query, .error error⟩ else .error error

def call (context : Context) (connection : Connection) :
    Exchange (Except Error Response) := do
  let procedure := forVersion context connection.version
  Exchange.note .debug ("Running routing procedure '" ++ procedure.query ++
    "' on " ++ connection.server.describe)
  let ran ←
    Exchange.runQuery connection procedure.query procedure.parameters
  let released ← Exchange.release connection
  return conclude procedure.query ran released

end Procedure

end ClusterRouting
