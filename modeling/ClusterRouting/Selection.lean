import ClusterRouting.Request
import ClusterRouting.Settings
import ClusterRouting.Table

/-! Selection: picking one of several servers that serve a mode.

Every mode has a counter of its own that turns the place where the selection
starts. The pool is asked for its numbers of active connections, and a random
draw comes in from outside. -/

namespace ClusterRouting

/-- A counter of 64 bits, which starts again at zero after its last value. -/
structure Rotation where
  count : UInt64 := 0
  deriving DecidableEq, Repr

namespace Rotation

def next (rotation : Rotation) (length : Nat) : Nat × Rotation :=
  (rotation.count.toNat % length, ⟨rotation.count + 1⟩)

end Rotation

structure Surroundings where
  now : Timestamp
  active : Address → Nat
  /-- A random number; its remainder picks the place in a list. -/
  draw : Nat

abbrev Poll (Result : Type) := Dialogue (fun _ : Address => Nat) Result

namespace Poll

def active (address : Address) : Poll Nat :=
  Dialogue.request address

def result {Result : Type} (poll : Poll Result) (active : Address → Nat) :
    Result :=
  Id.run (Dialogue.run active poll)

end Poll

namespace Selection

def turn (start : Nat) (addresses : List Address) : List Address :=
  addresses.drop start ++ addresses.take start

/-- The first address with the least number of active connections, and that
number; `best` is what was met before. -/
def least (best : Address × Nat) : List Address → Poll (Address × Nat)
  | [] => return best
  | address :: rest => do
      let count ← Poll.active address
      least (if count < best.2 then (address, count) else best) rest

end Selection

structure Selection where
  policy : Policy
  readers : Rotation := {}
  writers : Rotation := {}
  deriving DecidableEq

namespace Selection

def rotation (selection : Selection) : AccessMode → Rotation
  | .read => selection.readers
  | .write => selection.writers

def setRotation (selection : Selection) (mode : AccessMode)
    (rotation : Rotation) : Selection :=
  match mode with
  | .read => { selection with readers := rotation }
  | .write => { selection with writers := rotation }

def noun : AccessMode → String
  | .read => "reader"
  | .write => "writer"

structure Pick where
  address? : Option Address
  selection : Selection
  notices : List Notice

def pickNone (selection : Selection) (mode : AccessMode) : Pick :=
  let text := "Unable to select " ++ noun mode ++ ", no known addresses given"
  ⟨none, selection, [⟨.trace, text⟩]⟩

def pickCounted (selection : Selection) (mode : AccessMode)
    (rotation : Rotation) (counted : Address × Nat) : Pick :=
  let text := "Selected " ++ noun mode ++ " with address: '" ++
    counted.1.describe ++ "' and active connections: " ++ toString counted.2
  ⟨some counted.1, selection.setRotation mode rotation, [⟨.trace, text⟩]⟩

def pollLeastConnected (selection : Selection) (mode : AccessMode)
    (addresses : List Address) : Poll Pick :=
  let (start, rotation) := (selection.rotation mode).next addresses.length
  match turn start addresses with
  | [] => return selection.pickNone mode
  | first :: rest => do
      let count ← Poll.active first
      return selection.pickCounted mode rotation (← least (first, count) rest)

def pickLeastConnected (selection : Selection) (surroundings : Surroundings)
    (mode : AccessMode) (addresses : List Address) : Pick :=
  (selection.pollLeastConnected mode addresses).result surroundings.active

def pickRoundRobin (selection : Selection) (mode : AccessMode)
    (addresses : List Address) : Pick :=
  let (place, rotation) := (selection.rotation mode).next addresses.length
  match addresses[place]? with
  | none => selection.pickNone mode
  | some address =>
      let text := "Selected " ++ noun mode ++ " with address: '" ++
        address.describe ++ "'"
      ⟨some address, selection.setRotation mode rotation, [⟨.trace, text⟩]⟩

def pickRandom (selection : Selection) (surroundings : Surroundings)
    (addresses : List Address) : Pick :=
  ⟨addresses[surroundings.draw % addresses.length]?, selection, []⟩

def pick (selection : Selection) (surroundings : Surroundings)
    (mode : AccessMode) (addresses : List Address) : Pick :=
  match selection.policy with
  | .leastConnected => selection.pickLeastConnected surroundings mode addresses
  | .roundRobin => selection.pickRoundRobin mode addresses
  | .random => selection.pickRandom surroundings addresses

end Selection

end ClusterRouting
