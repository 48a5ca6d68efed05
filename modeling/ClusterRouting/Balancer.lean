import ClusterRouting.Discovery
import ClusterRouting.Selection

/-! Balancers: one routing table that many callers share, and the refreshes
that keep it up to date.

At most one refresh is under way. It sits in a slot from its start until its
outcome has been applied to the table, and callers who need a fresh table while
the slot is taken wait for that refresh. All that a change asks of the world
outside is given as a list of effects, in order. -/

namespace ClusterRouting

inductive Refresh where
  | ready (search : Search (Except Error Composition))
  | waiting (request : Request)
      (resume : request.Reply → Search (Except Error Composition))
  /-- The outcome is the table that the refresh installed, or its failure. -/
  | ended (outcome : Except Error Table)
  /-- The refresh broke down, and nobody has noticed yet. -/
  | crashed (fault : String)

structure Balancer where
  discovery : Discovery
  provider : Provider
  table : Table
  selection : Selection
  refreshes : List Refresh := []
  /-- The place of the refresh that is under way. -/
  slot : Option Nat := none
  closed : Bool := false

inductive Effect where
  | note (notice : Notice)
  | purge (address : Address)
  | ask (request : Request)
  | acquire (caller : Nat) (address : Address)
  | closePool

namespace Balancer

def ofRouter (initialRouter : Address) (settings : Settings) : Balancer where
  discovery := { initialRouter, settings }
  provider := Provider.procedure settings.context
  table := .ofRouters [initialRouter]
  selection := { policy := settings.policy }

def isRoutingUri (uri : String) : Bool :=
  Text.begins "zeta4g://" uri || Text.begins "zeta4g+s://" uri ||
    Text.begins "zeta4g+ssc://" uri

/-- The balancer for the router that a URI names. The query of the URI, if it
has one, takes the place of the routing context in the settings. -/
def ofUri (uri : String) (settings : Settings) : Except Error Balancer := do
  if isRoutingUri uri then
    let initialRouter ← (Address.ofUri uri).mapError Address.Malformed.toError
    let context ← (Context.ofUri uri).mapError Context.Malformed.toError
    let context := if context.isDefined then context else settings.context
    .ok (ofRouter initialRouter { settings with context })
  else
    .error (.configuration
      ("Unsupported routing URI scheme in '" ++ uri ++ "'"))

/-! ## Failures of servers -/

/-- Leave a server out as a report says. The address leaves the table before
the pool drops its connections, so that no caller picks it in between. -/
def report (balancer : Balancer) : Report → Balancer × List Effect
  | .unreachable address =>
      ({ balancer with table := balancer.table.forget address },
        [.purge address])
  | .refusesWrites address =>
      ({ balancer with table := balancer.table.removeWriter address }, [])

/-! ## Refreshes -/

inductive Joined where
  | fresh (table : Table)
  | waits (refresh : Nat)

def start (balancer : Balancer) : Balancer :=
  let search := balancer.discovery.search balancer.provider
  { balancer with
    refreshes := balancer.refreshes ++ [.ready search]
    slot := some balancer.refreshes.length }

def join (balancer : Balancer) (now : Timestamp) (mode : AccessMode) :
    Balancer × List Effect × Joined :=
  match balancer.slot with
  | some refresh => (balancer, [], .waits refresh)
  | none =>
      if balancer.table.isStaleFor now mode then
        let text :=
          "Routing information is stale. " ++ balancer.table.describe now
        (balancer.start, [.note ⟨.info, text⟩],
          .waits balancer.refreshes.length)
      else (balancer, [], .fresh balancer.table)

/-- End a refresh: apply its result to the table, and empty the slot, all in
one step. The pool drops the connections to the readers and writers that the
composition leaves out. These purges, the clock and the log are taken to
return, so that a refresh cannot break down between the change of the table and
the emptying of the slot. -/
def conclude (balancer : Balancer) (now : Timestamp) (refresh : Nat)
    (result : Except Error Composition) : Balancer × List Effect :=
  let ended (table : Table) (outcome : Except Error Table) : Balancer :=
    { balancer with
      discovery := balancer.discovery.learn result
      table
      refreshes := balancer.refreshes.set refresh (.ended outcome)
      slot := none }
  match result with
  | .ok composition =>
      let table := balancer.table.update composition
      let removed := balancer.table.removed composition
      let text := "Refreshed routing information. " ++ table.describe now
      (ended table (.ok table),
        removed.toList.map .purge ++ [.note ⟨.info, text⟩])
  | .error error =>
      let text := "Failed to update routing table. Current routing table: " ++
        balancer.table.describe now ++ ". Error: " ++ error.describe
      (ended balancer.table (.error error), [.note ⟨.warn, text⟩])

def carryOn (balancer : Balancer) (now : Timestamp) (refresh : Nat)
    (search : Search (Except Error Composition)) : Balancer × List Effect :=
  let progress := search.advance now balancer.table
  let notices := progress.notices.map Effect.note
  let balancer := { balancer with table := progress.table }
  match progress.stop with
  | .finish result =>
      let (balancer, effects) := balancer.conclude now refresh result
      (balancer, notices ++ effects)
  | .wait request resume =>
      let refreshes :=
        balancer.refreshes.set refresh (.waiting request resume)
      ({ balancer with refreshes }, notices ++ [.ask request])

def underWay (balancer : Balancer) : Option (Nat × Refresh) := do
  let place ← balancer.slot
  let refresh ← balancer.refreshes[place]?
  some (place, refresh)

def proceed (balancer : Balancer) (now : Timestamp) :
    Balancer × List Effect :=
  match balancer.underWay with
  | some (place, .ready search) => balancer.carryOn now place search
  | _ => (balancer, [])

inductive Answer where
  | acquired (reply : Except Error Connection)
  | ran (reply : Except Error (List Record))
  | released (reply : Except Error Unit)
  | composed (reply : Except Error Composition)
  | resolved (reply : Except Error (List Address))
  | paused

def Answer.reply? (answer : Answer) : (request : Request) →
    Option request.Reply
  | .acquire _ => match answer with | .acquired reply => some reply | _ => none
  | .run _ _ _ => match answer with | .ran reply => some reply | _ => none
  | .release _ => match answer with | .released reply => some reply | _ => none
  | .compose _ => match answer with | .composed reply => some reply | _ => none
  | .resolve _ => match answer with | .resolved reply => some reply | _ => none
  | .pause _ => match answer with | .paused => some () | _ => none
  | .clock | .note _ => none

def receive (balancer : Balancer) (now : Timestamp) (answer : Answer) :
    Balancer × List Effect :=
  match balancer.underWay with
  | some (place, .waiting request resume) =>
      match answer.reply? request with
      | some reply => balancer.carryOn now place (resume reply)
      | none => (balancer, [])
  | _ => (balancer, [])

/-- The refresh in the slot breaks down by some fault, and stays there until
somebody who waits for it notices. This happens in its turns or while it waits,
and never while its result is applied: see `conclude`. -/
def crash (balancer : Balancer) (fault : String) : Balancer :=
  let broken (place : Nat) : Balancer :=
    { balancer with
      refreshes := balancer.refreshes.set place (.crashed fault) }
  match balancer.underWay with
  | some (place, .ready _) => broken place
  | some (place, .waiting _ _) => broken place
  | _ => balancer

def brokenDown (fault : String) : Error :=
  .internal ("Routing table refresh task failed: " ++ fault)

/-- The outcome of a refresh for one who waits for it, if it is there. Whoever
is the first to look after a refresh that broke down empties the slot. -/
def outcome? (balancer : Balancer) (refresh : Nat) :
    Option (Balancer × Except Error Table) :=
  match balancer.refreshes[refresh]? with
  | some (.ended outcome) => some (balancer, outcome)
  | some (.crashed fault) =>
      let outcome := .error (brokenDown fault)
      some
        ({ balancer with
          refreshes := balancer.refreshes.set refresh (.ended outcome)
          slot := none }, outcome)
  | _ => none

/-! ## Connections -/

def noServer (balancer : Balancer) (now : Timestamp) (mode : AccessMode) :
    Error :=
  .noServerAvailable
    ("Failed to obtain connection towards " ++ mode.name ++
      " server. Known routing table is: " ++ balancer.table.describe now)

def candidates (balancer : Balancer) (mode : AccessMode)
    (failed : List Address) : List Address :=
  (balancer.table.servers mode).toList.filter (!failed.contains ·)

def select (balancer : Balancer) (surroundings : Surroundings)
    (mode : AccessMode) (failed : List Address) :
    Balancer × List Effect × Option Address :=
  let pick := balancer.selection.pick surroundings mode
    (balancer.candidates mode failed)
  ({ balancer with selection := pick.selection },
    pick.notices.map .note, pick.address?)

def close (balancer : Balancer) : Balancer × List Effect :=
  if balancer.closed then (balancer, [])
  else
    ({ balancer with closed := true },
      [.note ⟨.debug, "Closing load balancer"⟩, .closePool])

def closedError : Error :=
  .session "Driver is closed"

def outline (balancer : Balancer) (clock : String) : String :=
  Text.outline "LoadBalancer"
    [("initial_router", balancer.discovery.initialRouter.outline),
      ("routing_table", balancer.table.outline clock),
      ("refreshing", toString balancer.slot.isSome),
      ("closed", toString balancer.closed)]

end Balancer

end ClusterRouting
