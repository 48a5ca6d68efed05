import ClusterRouting.AccessMode
import ClusterRouting.Address
import ClusterRouting.Version

/-! Connections that callers hold, and how failures on them are taken.

A caller is told that its session has expired when it should start again with
another server; the routing table and the pool are told which server to leave
out. -/

namespace ClusterRouting

structure Connection where
  server : Address
  version : Option Version
  serial : Nat
  deriving DecidableEq, Repr

inductive Report where
  /-- Nobody can be served there: the address leaves every role, and the pool
  drops its connections. -/
  | unreachable (address : Address)
  | refusesWrites (address : Address)
  deriving DecidableEq, Repr

structure RoutedConnection where
  connection : Connection
  mode : AccessMode
  deriving DecidableEq, Repr

namespace RoutedConnection

def server (routed : RoutedConnection) : Address :=
  routed.connection.server

/-- What the caller is told about a failure, and what the failure says about
the server. -/
def interpret (routed : RoutedConnection) (error : Error) :
    Error × Option Report :=
  let address := routed.server
  if error.isConnectivity then
    (.sessionExpired ("Server at " ++ address.describe ++
        " is no longer available: " ++ error.describe),
      some (.unreachable address))
  else if error.isWriteRejection then
    match routed.mode with
    | .read =>
        (.server (error.code?.getD "")
          "Write queries cannot be performed in READ access mode.", none)
    | .write =>
        (.sessionExpired ("Server at " ++ address.describe ++
            " no longer accepts writes"),
          some (.refusesWrites address))
  else (error, none)

def outcome {α : Type} (routed : RoutedConnection) :
    Except Error α → Except Error α × Option Report
  | .ok value => (.ok value, none)
  | .error error =>
      let (told, report) := routed.interpret error
      (.error told, report)

def outline (routed : RoutedConnection) : String :=
  Text.outline "RoutingConnection"
    [("server_address", routed.server.outline),
      ("access_mode", routed.mode.outline)]

end RoutedConnection

end ClusterRouting
