import ClusterRouting.Balancer

/-! Systems: a balancer together with all its callers.

A caller wants a connection for a mode, or only to know that a routing table
can be had. Callers come and go in any order, and between any two steps of one
caller there may be steps of others, of the refresh that is under way, and
failure reports. A step changes the system at once; whatever takes time is
asked for by an effect and comes back as an event. -/

namespace ClusterRouting

inductive Purpose where
  | acquire (mode : AccessMode)
  | verify
  deriving DecidableEq, Repr

inductive Outcome where
  | connected (routed : RoutedConnection)
  | verified
  | failed (error : Error)
  deriving DecidableEq, Repr

inductive Caller where
  | waiting (purpose : Purpose) (refresh : Nat)
  /-- The caller waits for the pool's connection to an address, after other
  addresses have failed. -/
  | connecting (mode : AccessMode) (failed : List Address) (address : Address)
  | done (outcome : Outcome)

inductive Event where
  | arrive (purpose : Purpose)
  | look (caller : Nat)
  | pooled (caller : Nat) (reply : Except Error Connection)
  | proceed
  | answer (answer : Balancer.Answer)
  | crash (fault : String)
  | report (report : Report)
  | close

structure System where
  balancer : Balancer
  callers : List Caller := []

namespace Purpose

def mode : Purpose → AccessMode
  | .acquire mode => mode
  | .verify => .read

end Purpose

namespace System

def setCaller (system : System) (balancer : Balancer) (caller : Nat)
    (state : Caller) : System :=
  ⟨balancer, system.callers.set caller state⟩

/-- Pick a server for a caller and ask the pool for a connection to it. The
look at the table, the pick and the request to the pool are one step, and so
are the look and the text of the failure if no server is left: nothing of other
callers, of the refresh or of a report comes in between. -/
def attempt (system : System) (surroundings : Surroundings) (caller : Nat)
    (mode : AccessMode) (failed : List Address) : System × List Effect :=
  let (balancer, effects, address?) :=
    system.balancer.select surroundings mode failed
  match address? with
  | some address =>
      (system.setCaller balancer caller (.connecting mode failed address),
        effects ++ [.acquire caller address])
  | none =>
      let error := balancer.noServer surroundings.now mode
      (system.setCaller balancer caller (.done (.failed error)), effects)

def served (system : System) (surroundings : Surroundings) (caller : Nat)
    (purpose : Purpose) : System × List Effect :=
  match purpose with
  | .verify =>
      (system.setCaller system.balancer caller (.done .verified), [])
  | .acquire mode => system.attempt surroundings caller mode []

def arrive (system : System) (surroundings : Surroundings)
    (purpose : Purpose) : System × List Effect :=
  let caller := system.callers.length
  let place (balancer : Balancer) (state : Caller) : System :=
    ⟨balancer, system.callers ++ [state]⟩
  if system.balancer.closed then
    (place system.balancer (.done (.failed Balancer.closedError)), [])
  else
    match system.balancer.join surroundings.now purpose.mode with
    | (balancer, effects, .waits refresh) =>
        (place balancer (.waiting purpose refresh), effects)
    | (balancer, effects, .fresh _) =>
        let (system, more) :=
          (place balancer (.done .verified)).served surroundings caller purpose
        (system, effects ++ more)

def look (system : System) (surroundings : Surroundings) (caller : Nat) :
    System × List Effect :=
  match system.callers[caller]? with
  | some (.waiting purpose refresh) =>
      match system.balancer.outcome? refresh with
      | some (balancer, .ok _) =>
          ({ system with balancer }).served surroundings caller purpose
      | some (balancer, .error error) =>
          (system.setCaller balancer caller (.done (.failed error)), [])
      | none => (system, [])
  | _ => (system, [])

def pooled (system : System) (surroundings : Surroundings) (caller : Nat)
    (reply : Except Error Connection) : System × List Effect :=
  match system.callers[caller]? with
  | some (.connecting mode failed address) =>
      match reply with
      | .ok connection =>
          (system.setCaller system.balancer caller
            (.done (.connected ⟨connection, mode⟩)), [])
      | .error error =>
          if error.isConnectivity then
            let text := "Failed to obtain a connection towards address " ++
              address.describe ++ ": " ++ error.describe
            let (balancer, effects) :=
              system.balancer.report (.unreachable address)
            let (system, more) := ({ system with balancer }).attempt
              surroundings caller mode (failed ++ [address])
            (system, .note ⟨.error, text⟩ :: effects ++ more)
          else
            (system.setCaller system.balancer caller (.done (.failed error)),
              [])
  | _ => (system, [])

def changed (system : System) (change : Balancer × List Effect) :
    System × List Effect :=
  ({ system with balancer := change.1 }, change.2)

/-- One step of the system; an event that does not fit changes nothing. -/
def step (system : System) (surroundings : Surroundings) :
    Event → System × List Effect
  | .arrive purpose => system.arrive surroundings purpose
  | .look caller => system.look surroundings caller
  | .pooled caller reply => system.pooled surroundings caller reply
  | .proceed => system.changed (system.balancer.proceed surroundings.now)
  | .answer answer =>
      system.changed (system.balancer.receive surroundings.now answer)
  | .crash fault => system.changed (system.balancer.crash fault, [])
  | .report report => system.changed (system.balancer.report report)
  | .close => system.changed system.balancer.close

end System

end ClusterRouting
