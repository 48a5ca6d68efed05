import ClusterRouting.AccessMode
import ClusterRouting.Roster
import ClusterRouting.Value

/-! Cluster compositions: what a router says about the members of the cluster,
and until when that holds. -/

namespace ClusterRouting

/-- Milliseconds since the epoch. -/
abbrev Timestamp := Int64

structure Composition where
  expires : Timestamp
  readers : Roster
  writers : Roster
  routers : Roster
  deriving DecidableEq

namespace Composition

def ofLists (expires : Timestamp) (readers writers routers : List Address) :
    Composition :=
  ⟨expires, .ofList readers, .ofList writers, .ofList routers⟩

def hasWriters (composition : Composition) : Bool :=
  !composition.writers.isEmpty

def hasRoutersAndReaders (composition : Composition) : Bool :=
  !composition.routers.isEmpty && !composition.readers.isEmpty

def quoted (roster : Roster) : String :=
  Text.bracket (roster.toList.map fun address => Text.quote address.describe)

def describe (composition : Composition) : String :=
  "ClusterComposition\x7bexpirationTimestamp=" ++
    toString composition.expires.toInt ++
    ", readers=" ++ quoted composition.readers ++
    ", writers=" ++ quoted composition.writers ++
    ", routers=" ++ quoted composition.routers ++ "\x7d"

/-! ## Reading a record

The record that a routing procedure answers has a column `ttl` with the number
of seconds that the composition holds, and a column `servers` with a list of
maps. Each map gives a role and the addresses of the members with that role. -/

inductive Malformed where
  | ttl
  | servers
  | entry
  | roleMissing
  | roleUnknown (text : String)
  | addresses
  | addressType
  | address (cause : Address.Malformed)
  deriving DecidableEq, Repr

def Malformed.reason : Malformed → String
  | .ttl => "'ttl' must be an integer"
  | .servers => "'servers' must be a list"
  | .entry => "server entry must be a map"
  | .roleMissing => "server entry has no 'role'"
  | .roleUnknown text => "invalid server role '" ++ text ++ "'"
  | .addresses => "'addresses' must be a list"
  | .addressType => "address must be a string"
  | .address cause => cause.toError.describe

def Malformed.toError (record : Record) (malformed : Malformed) : Error :=
  .protocol ("Unable to parse routing record " ++ record.describe ++ ": " ++
    malformed.reason)

def never : Timestamp := Int64.maxValue

def add? (first second : Timestamp) : Option Timestamp :=
  let sum := first + second
  if sum.toInt = first.toInt + second.toInt then some sum else none

/-- The moment `ttl` seconds after `now`. A composition never expires if its
`ttl` is negative or the moment is out of range. -/
def expiry (now ttl : Int64) : Timestamp :=
  if ttl < 0 ∨ never / 1000 ≤ ttl then never
  else
    match add? now (ttl * 1000) with
    | some expires => if 0 ≤ expires then expires else never
    | none => never

def require {α : Type} (held : Option α) (malformed : Malformed) :
    Except Malformed α :=
  match held with
  | some value => .ok value
  | none => .error malformed

def readAddress (value : Value) : Except Malformed Address := do
  let text ← require value.string? .addressType
  match Address.parse text with
  | .ok address => .ok address
  | .error cause => .error (.address cause)

def readEntry (value : Value) : Except Malformed (Role × List Address) := do
  let entries ← require value.map? .entry
  let text ← require ((entries.lookup "role").bind Value.string?) .roleMissing
  let role ← require (Role.parse? text) (.roleUnknown text)
  let values ←
    require ((entries.lookup "addresses").bind Value.list?) .addresses
  .ok (role, ← values.mapM readAddress)

def ofRole (role : Role) (entries : List (Role × List Address)) :
    List Address :=
  (entries.filter (·.1 == role)).flatMap (·.2)

def read (record : Record) (now : Timestamp) :
    Except Malformed Composition := do
  let ttl ← require ((record.get? "ttl").bind Value.integer?) .ttl
  let servers ← require ((record.get? "servers").bind Value.list?) .servers
  let entries ← servers.mapM readEntry
  .ok (ofLists (expiry now ttl) (ofRole .read entries) (ofRole .write entries)
    (ofRole .route entries))

def parse (record : Record) (now : Timestamp) : Except Error Composition :=
  (read record now).mapError (Malformed.toError record)

example : expiry 1000 300 = 301000 := by decide +kernel

example : expiry 0 (-1) = never := by decide +kernel

end Composition

end ClusterRouting
