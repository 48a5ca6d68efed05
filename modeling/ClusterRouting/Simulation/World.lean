import ClusterRouting.Address.Numeric
import ClusterRouting.Balancer

/-! Simulated worlds: a pool, a provider and a resolver that follow scripts, a
clock that goes only where it is set, and a record of all they were asked.

Time is counted in milliseconds from the beginning and passes only while
somebody waits. It is apart from the clock that routing reads. -/

namespace ClusterRouting.Simulation

/-- Outcomes in order, of which the last one repeats. -/
abbrev Script (α : Type) := List α

namespace Script

def next {α : Type} (standard : α) : Script α → α × Script α
  | [] => (standard, [])
  | [last] => (last, [last])
  | outcome :: rest => (outcome, rest)

end Script

structure Server where
  acquire : Script (Except Error Unit) := []
  release : Script (Except Error Unit) := []
  run : Script (Except Error (List Record)) := []
  version : Option Version := none
  active : Int := 0
  delay : Nat := 0

inductive Incident where
  | acquire (address : Address)
  | release (address : Address)
  | purge (address : Address)
  | resolve (address : Address)
  | provide (address : Address)
  | run (address : Address) (query : String)
      (parameters : List (String × Value))
  | closePool
  | reported (report : Report)

namespace Incident

def name : Incident → String
  | .acquire _ => "acquire"
  | .release _ => "release"
  | .purge _ => "purge"
  | .resolve _ => "resolve"
  | .provide _ => "provide"
  | .run _ _ _ => "run"
  | .closePool => "close"
  | .reported (.unreachable _) => "connection_failure"
  | .reported (.refusesWrites _) => "write_failure"

def address? : Incident → Option Address
  | .acquire address | .release address | .purge address | .resolve address
  | .provide address | .run address _ _
  | .reported (.unreachable address)
  | .reported (.refusesWrites address) => some address
  | .closePool => none

end Incident

inductive Use where
  | run (query : String) (parameters : List (String × Value))
  | release

inductive Used where
  | ran (outcome : Except Error (List Record))
  | released (outcome : Except Error Unit)

structure World where
  time : Nat := 0
  now : Timestamp := 0
  servers : List (Address × Server) := []
  close : Script (Except Error Unit) := []
  /-- What the provider answers; an empty outcome is a breakdown. -/
  provided : List (Address × Script (Option (Except Error Composition))) := []
  providerDelay : Nat := 0
  resolved : List (Address × Script (Except Error (List Address))) := []
  /-- Whether numeric addresses only are resolved, and unrecorded. -/
  numeric : Bool := false
  incidents : List (Nat × Incident) := []
  notices : List Notice := []

def assign {α : Type} (address : Address) (value : α)
    (entries : List (Address × α)) : List (Address × α) :=
  (address, value) :: entries.filter (·.1 != address)

/-- The time for which a sleeper who asks for some time sleeps. Nobody sleeps
longer than thirty years of 365 days. -/
def sleep (asked : Nat) : Nat :=
  min asked (30 * 365 * 24 * 60 * 60 * 1000)

namespace World

def server (world : World) (address : Address) : Server :=
  (world.servers.lookup address).getD {}

def setServer (world : World) (address : Address) (server : Server) : World :=
  { world with servers := assign address server world.servers }

def record (world : World) (incident : Incident) : World :=
  { world with incidents := world.incidents ++ [(world.time, incident)] }

def note (world : World) (notice : Notice) : World :=
  { world with notices := world.notices ++ [notice] }

def surroundings (world : World) : Surroundings where
  now := world.now
  active address := (world.server address).active.toNat
  draw := 0

def begin (world : World) : Request → World × Nat
  | .acquire address =>
      (world.record (.acquire address), sleep (world.server address).delay)
  | .run connection query parameters =>
      (world.record (.run connection.server query parameters), 0)
  | .release connection => (world.record (.release connection.server), 0)
  | .compose router =>
      (world.record (.provide router), sleep world.providerDelay)
  | .resolve address =>
      (if world.numeric then world else world.record (.resolve address), 0)
  | .pause delay => (world, sleep ((delay.nanoseconds + 999999) / 1000000))
  | .clock => (world, 0)
  | .note notice => (world.note notice, 0)

def acquired (world : World) (address : Address) :
    World × Except Error Connection :=
  let server := world.server address
  let (outcome, acquire) := server.acquire.next (.ok ())
  match outcome with
  | .ok () =>
      (world.setServer address
          { server with acquire, active := server.active + 1 },
        .ok ⟨address, server.version, 0⟩)
  | .error error =>
      (world.setServer address { server with acquire }, .error error)

def ran (world : World) (connection : Connection) :
    World × Except Error (List Record) :=
  let server := world.server connection.server
  let (outcome, run) := server.run.next (.ok [])
  (world.setServer connection.server { server with run }, outcome)

def released (world : World) (connection : Connection) :
    World × Except Error Unit :=
  let server := world.server connection.server
  let (outcome, release) := server.release.next (.ok ())
  (world.setServer connection.server
      { server with release, active := server.active - 1 },
    outcome)

def composed (world : World) (router : Address) :
    World × Option (Except Error Composition) :=
  let missing : Error :=
    .serviceUnavailable ("No response for " ++ router.describe)
  let script := (world.provided.lookup router).getD []
  let (outcome, script) := Script.next (some (.error missing)) script
  ({ world with provided := assign router script world.provided }, outcome)

def resolution (world : World) (address : Address) :
    World × Except Error (List Address) :=
  if world.numeric then (world, address.resolveNumeric)
  else
    let script := (world.resolved.lookup address).getD []
    let (outcome, script) := Script.next (.ok [address]) script
    ({ world with resolved := assign address script world.resolved }, outcome)

def complete (world : World) : Request → World × Option Balancer.Answer
  | .acquire address =>
      let (world, reply) := world.acquired address
      (world, some (.acquired reply))
  | .run connection _ _ =>
      let (world, reply) := world.ran connection
      (world, some (.ran reply))
  | .release connection =>
      let (world, reply) := world.released connection
      (world, some (.released reply))
  | .compose router =>
      let (world, reply) := world.composed router
      (world, reply.map .composed)
  | .resolve address =>
      let (world, reply) := world.resolution address
      (world, some (.resolved reply))
  | .pause _ => (world, some .paused)
  | .clock | .note _ => (world, none)

def reply (world : World) : (request : Request) →
    Option (request.Reply × World)
  | .clock => some (world.now, world)
  | .note notice => some ((), world.note notice)
  | request =>
      let (world, delay) := world.begin request
      let (world, answer) :=
        { world with time := world.time + delay }.complete request
      (answer.bind (·.reply? request)).map fun reply => (reply, world)

def closePool (world : World) : World × Except Error Unit :=
  let (outcome, close) := world.close.next (.ok ())
  ({ world.record .closePool with close }, outcome)

def use (world : World) (routed : RoutedConnection) :
    Use → World × Used × Option Report
  | .run query parameters =>
      let incident := .run routed.server query parameters
      let (world, reply) := (world.record incident).ran routed.connection
      let (outcome, report) := routed.outcome reply
      (world, .ran outcome, report)
  | .release =>
      let incident := .release routed.server
      let (world, reply) := (world.record incident).released routed.connection
      let (outcome, report) := routed.outcome reply
      (world, .released outcome, report)

def replyInquiry (world : World) (table : Table) :
    (inquiry : Inquiry) → Option (inquiry.Reply × World × Table)
  | .routers => some (table.routers.toList, world, table)
  | .forget address => some ((), world, table.forget address)
  | .outside request =>
      (world.reply request).map fun (reply, world) => (reply, world, table)

def converse {Result : Type} (world : World) (exchange : Exchange Result) :
    Option (Result × World) :=
  let answer (request : Request) : StateT World Option request.Reply :=
    fun world => world.reply request
  Dialogue.run answer exchange world

def search {Result : Type} (world : World) (table : Table)
    (search : Search Result) : Option (Result × World × Table) :=
  let answer (inquiry : Inquiry) :
      StateT (World × Table) Option inquiry.Reply :=
    fun (world, table) => world.replyInquiry table inquiry
  Dialogue.run answer search (world, table)

/-- Settled incidents with one more in front. If it is a purge, it goes behind
the purges that follow it at the same time and have smaller address texts. -/
def settleOne (time : Nat) (incident : Incident) :
    List (Nat × Incident) → List (Nat × Incident)
  | [] => [(time, incident)]
  | (later, next) :: rest =>
      match incident, next with
      | .purge address, .purge other =>
          if time = later ∧ other.describe < address.describe then
            (later, next) :: settleOne time incident rest
          else (time, incident) :: (later, next) :: rest
      | _, _ => (time, incident) :: (later, next) :: rest

def settle : List (Nat × Incident) → List (Nat × Incident)
  | [] => []
  | (time, incident) :: rest => settleOne time incident (settle rest)

def account (world : World) : List (Nat × Incident) :=
  settle world.incidents

end World

end ClusterRouting.Simulation
