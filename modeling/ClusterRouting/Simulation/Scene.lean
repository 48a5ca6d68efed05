import ClusterRouting.Simulation.World
import ClusterRouting.System

/-! Scenes: actors that use one balancer in a simulated world, each from a time
of its own.

Time passes only when nothing can go on at the present time. Of what can go on,
the first actor in the list comes first, and the refresh that is under way
comes after all actors. -/

namespace ClusterRouting.Simulation

inductive View where
  | closed
  | table
  | balancer (clock : String)

inductive Action where
  | call (purpose : Purpose)
  | report (report : Report)
  | close
  | look (view : View)
  | use (number : Nat) (use : Use)
  | rest

inductive Finding where
  /-- The connection has the version that its server has when it is handed
  out. -/
  | connected (routed : RoutedConnection) (version : Option Version)
  | verified
  | failed (error : Error)
  | closed (outcome : Except Error Unit)
  | flag (value : Bool)
  | text (value : String)
  | used (used : Used)
  | unconnected
  | nothing

inductive Actor where
  | asleep (wake : Nat) (prepare : World → World) (action : Action)
  | calling (caller : Nat)
  | done (finding : Finding) (time : Nat)

structure Scene where
  world : World
  system : System
  connections : List RoutedConnection := []
  actors : List Actor := []
  /-- The time at which the pool answers each caller that waits for it. -/
  deliveries : List (Nat × Nat) := []
  answerTime : Nat := 0

namespace Actor

def connection? : Actor → Option RoutedConnection
  | .done (.connected routed _) _ => some routed
  | _ => none

def isDone : Actor → Bool
  | .done _ _ => true
  | _ => false

end Actor

namespace Scene

def perform (scene : Scene) : Effect → Scene
  | .note notice => { scene with world := scene.world.note notice }
  | .purge address =>
      { scene with world := scene.world.record (.purge address) }
  | .ask request =>
      let (world, delay) := scene.world.begin request
      { scene with world, answerTime := world.time + delay }
  | .acquire caller address =>
      let (world, delay) := scene.world.begin (.acquire address)
      let delivery := (caller, world.time + delay)
      { scene with world, deliveries := delivery :: scene.deliveries }
  | .closePool => { scene with world := scene.world.closePool.1 }

def occur (scene : Scene) (event : Event) : Scene :=
  let (system, effects) := scene.system.step scene.world.surroundings event
  effects.foldl perform { scene with system }

def setActor (scene : Scene) (place : Nat) (actor : Actor) : Scene :=
  { scene with actors := scene.actors.set place actor }

def finish (scene : Scene) (place : Nat) (finding : Finding) : Scene :=
  scene.setActor place (.done finding scene.world.time)

def view (scene : Scene) : View → Finding
  | .closed => .flag scene.system.balancer.closed
  | .table =>
      .text (scene.system.balancer.table.describe scene.world.now)
  | .balancer clock => .text (scene.system.balancer.outline clock)

def act (scene : Scene) (place : Nat) : Action → Scene
  | .call purpose =>
      let caller := scene.system.callers.length
      (scene.occur (.arrive purpose)).setActor place (.calling caller)
  | .report report => (scene.occur (.report report)).finish place .nothing
  | .close =>
      let outcome :=
        if scene.system.balancer.closed then .ok ()
        else scene.world.closePool.2
      (scene.occur .close).finish place (.closed outcome)
  | .look view => scene.finish place (scene.view view)
  | .use number use =>
      match scene.connections[number]? with
      | some routed =>
          let (world, used, report) := scene.world.use routed use
          let scene := { scene with world }
          let scene := (report.map (scene.occur <| .report ·)).getD scene
          scene.finish place (.used used)
      | none => scene.finish place .unconnected
  | .rest => scene.finish place .nothing

def callerTurn? (scene : Scene) (place caller : Nat) : Option Scene := do
  match ← scene.system.callers[caller]? with
  | .waiting _ refresh =>
      let _ ← scene.system.balancer.outcome? refresh
      some (scene.occur (.look caller))
  | .connecting _ _ address =>
      if (← scene.deliveries.lookup caller) ≤ scene.world.time then
        let (world, reply) := scene.world.acquired address
        some ({ scene with world }.occur (.pooled caller reply))
      else none
  | .done (.connected routed) =>
      let version := (scene.world.server routed.server).version
      some (scene.finish place (.connected routed version))
  | .done .verified => some (scene.finish place .verified)
  | .done (.failed error) => some (scene.finish place (.failed error))

def actorTurn? (scene : Scene) (place : Nat) : Actor → Option Scene
  | .asleep wake prepare action =>
      if wake ≤ scene.world.time then
        some ({ scene with world := prepare scene.world }.act place action)
      else none
  | .calling caller => scene.callerTurn? place caller
  | .done _ _ => none

def refreshTurn? (scene : Scene) : Option Scene :=
  match scene.system.balancer.underWay with
  | some (_, .ready _) => some (scene.occur .proceed)
  | some (_, .waiting request _) =>
      if scene.answerTime ≤ scene.world.time then
        let (world, answer) := scene.world.complete request
        let event := (answer.map Event.answer).getD (.crash "panicked")
        some ({ scene with world }.occur event)
      else none
  | _ => none

def wake? (scene : Scene) : Actor → Option Nat
  | .asleep wake _ _ => some wake
  | .calling caller =>
      match scene.system.callers[caller]? with
      | some (.connecting _ _ _) => scene.deliveries.lookup caller
      | _ => none
  | .done _ _ => none

def refreshWake? (scene : Scene) : Option Nat :=
  match scene.system.balancer.underWay with
  | some (_, .waiting _ _) => some scene.answerTime
  | _ => none

def sleep? (scene : Scene) : Option Scene :=
  let wakes := scene.actors.filterMap scene.wake? ++ scene.refreshWake?.toList
  if scene.actors.all Actor.isDone then none
  else
    wakes.min?.map fun time =>
      { scene with world := { scene.world with time } }

/-- The scene a little later: one turn of the first that can go on, or else a
sleep. -/
def next? (scene : Scene) : Option Scene :=
  (scene.actors.zipIdx.findSome? fun (actor, place) =>
    scene.actorTurn? place actor) <|> scene.refreshTurn? <|> scene.sleep?

def enter (scene : Scene) (actors : List Actor) : Scene :=
  { scene with actors }

def leave (scene : Scene) : Scene :=
  { scene with
    actors := []
    connections := scene.connections ++
      scene.actors.filterMap Actor.connection? }

end Scene

end ClusterRouting.Simulation
