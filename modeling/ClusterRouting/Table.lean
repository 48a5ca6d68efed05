import ClusterRouting.AccessMode
import ClusterRouting.Composition

/-! Routing tables: the members of the cluster by role as they are known now,
and until when to believe it. -/

namespace ClusterRouting

structure Table where
  expires : Timestamp
  routers : Roster
  readers : Roster
  writers : Roster
  deriving DecidableEq

namespace Table

/-- A table that knows routers only. It expired long ago, so that its first use
asks the routers. -/
def ofRouters (routers : List Address) : Table :=
  ⟨0, .ofList routers, .empty, .empty⟩

def servers (table : Table) : AccessMode → Roster
  | .read => table.readers
  | .write => table.writers

def isExpired (table : Table) (now : Timestamp) : Bool :=
  table.expires ≤ now

def isStaleFor (table : Table) (now : Timestamp) (mode : AccessMode) : Bool :=
  table.isExpired now || (table.servers mode).isEmpty

def isStale (table : Table) (now : Timestamp) : Bool :=
  table.isExpired now || table.routers.isEmpty || table.readers.isEmpty ||
    table.writers.isEmpty

def update (table : Table) (composition : Composition) : Table :=
  { expires := composition.expires
    routers := table.routers.update composition.routers.toList
    readers := table.readers.update composition.readers.toList
    writers := table.writers.update composition.writers.toList }

/-- The readers and writers that are not in the same role of a composition. -/
def removed (table : Table) (composition : Composition) : Roster :=
  .ofList
    (table.readers.missing composition.readers.toList ++
      table.writers.missing composition.writers.toList)

def forget (table : Table) (address : Address) : Table :=
  { table with
    routers := table.routers.erase address
    readers := table.readers.erase address
    writers := table.writers.erase address }

def removeWriter (table : Table) (address : Address) : Table :=
  { table with writers := table.writers.erase address }

def describe (table : Table) (now : Timestamp) : String :=
  "Ttl " ++ toString table.expires.toInt ++ ", currentTime " ++
    toString now.toInt ++ ", routers " ++ table.routers.describe ++
    ", writers " ++ table.writers.describe ++ ", readers " ++
    table.readers.describe

def outline (table : Table) (clock : String) : String :=
  Text.outline "RoutingTable"
    [("routers", table.routers.outline), ("readers", table.readers.outline),
      ("writers", table.writers.outline),
      ("expiration_timestamp", toString table.expires.toInt),
      ("clock", clock)]

end Table

end ClusterRouting
