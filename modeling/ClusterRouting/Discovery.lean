import ClusterRouting.Provider
import ClusterRouting.Settings
import ClusterRouting.Table

/-! Discovery: asking routers one after another until one of them tells the
composition of the cluster.

One pass asks the routers of the table and those that the initial router
resolves to. A router that fails is forgotten, so that later passes and other
callers leave it out. When a pass has asked all of them in vain, the next one
follows after a delay, until the passes are used up. A failure that no other
router could mend ends the search at once. -/

namespace ClusterRouting

inductive Inquiry where
  | routers
  | forget (address : Address)
  | outside (request : Request)

def Inquiry.Reply : Inquiry → Type
  | .routers => List Address
  | .forget _ => Unit
  | .outside request => request.Reply

abbrev Search (Result : Type) := Dialogue Inquiry.Reply Result

namespace Search

def routers : Search (List Address) :=
  Dialogue.request Inquiry.routers

def forget (address : Address) : Search Unit :=
  Dialogue.request (Inquiry.forget address)

def resolve (address : Address) : Search (Except Error (List Address)) :=
  Dialogue.request (Inquiry.outside (.resolve address))

def pause (delay : Duration) : Search Unit :=
  Dialogue.request (Inquiry.outside (.pause delay))

def note (level : Level) (text : String) : Search Unit :=
  Dialogue.request (Inquiry.outside (.note ⟨level, text⟩))

def ofExchange {Result : Type} (exchange : Exchange Result) :
    Search Result :=
  exchange.embed Inquiry.outside fun _ reply => reply

end Search

structure Discovery where
  initialRouter : Address
  settings : Settings
  /-- Whether the last composition that was found had no writers. -/
  writerless : Bool := false

namespace Discovery

inductive Finding where
  | found (composition : Composition)
  | fatal (error : Error)
  | nothing

def exhausted (tried : Roster) : Error :=
  .noServerAvailable
    ("Could not perform discovery. No routing servers available. Tried: " ++
      tried.describe)

def askEach (provider : Provider) (tried : Roster) :
    List Address → Search (Finding × Roster)
  | [] => return (.nothing, tried)
  | router :: rest => do
      let tried := tried.insertAll [router]
      match ← Search.ofExchange (provider router) with
      | .ok composition => return (.found composition, tried)
      | .error error =>
          let text := "Failed to update routing table with server '" ++
            router.describe ++ "': " ++ error.describe
          if error.isFatal then
            Search.note .error text
            return (.fatal error, tried)
          else
            Search.note .warn text
            Search.forget router
            askEach provider tried rest

def resolveInitial (discovery : Discovery) : Search (List Address) := do
  match ← Search.resolve discovery.initialRouter with
  | .ok addresses => return addresses
  | .error error =>
      Search.note .error
        ("Failed to resolve address '" ++ discovery.initialRouter.describe ++
          "' to IPs due to error: " ++ error.describe)
      return [discovery.initialRouter]

/-- The pass that starts with the routers of the table. Those are not asked
again as addresses of the initial router. -/
def knownRoutersFirst (discovery : Discovery) (provider : Provider)
    (tried : Roster) : Search (Finding × Roster) := do
  let known ← Search.routers
  match ← askEach provider tried known with
  | (.nothing, tried) =>
      let resolved ← discovery.resolveInitial
      askEach provider tried (resolved.filter (!known.contains ·))
  | done => return done

/-- The pass that starts with the addresses of the initial router. It reads the
routers of the table after those have failed, and have been forgotten. -/
def initialRouterFirst (discovery : Discovery) (provider : Provider)
    (tried : Roster) : Search (Finding × Roster) := do
  let resolved ← discovery.resolveInitial
  match ← askEach provider tried resolved with
  | (.nothing, tried) =>
      let known ← Search.routers
      askEach provider tried known
  | done => return done

/-- Whether a pass starts with the initial router. After a composition without
writers it does, since the known routers may be cut off from the others. -/
def startsWithInitial (discovery : Discovery) : Bool :=
  discovery.settings.routerOrder == .initialRouterFirst ||
    discovery.writerless

def pass (discovery : Discovery) (provider : Provider) (tried : Roster) :
    Search (Finding × Roster) :=
  if discovery.startsWithInitial then
    discovery.initialRouterFirst provider tried
  else discovery.knownRoutersFirst provider tried

def passes (discovery : Discovery) (provider : Provider) (tried : Roster)
    (delay : Duration) (more : Nat) : Search (Except Error Composition) := do
  match ← discovery.pass provider tried with
  | (.found composition, _) =>
      unless composition.hasWriters do
        Search.note .debug
          ("Received routing table without writers, will query the initial " ++
            "router next time")
      return .ok composition
  | (.fatal error, _) => return .error error
  | (.nothing, tried) =>
      match more with
      | 0 => return .error (exhausted tried)
      | more + 1 =>
          let delay := discovery.settings.nextDelay delay
          Search.note .info
            ("Unable to fetch new routing table, will try again in " ++
              toString delay.milliseconds ++ "ms")
          Search.pause delay
          discovery.passes provider tried delay more

def search (discovery : Discovery) (provider : Provider) :
    Search (Except Error Composition) :=
  discovery.passes provider .empty .zero (discovery.settings.passes - 1)

def learn (discovery : Discovery) : Except Error Composition → Discovery
  | .ok composition =>
      { discovery with writerless := !composition.hasWriters }
  | .error _ => discovery

end Discovery

inductive Stop (Result : Type) where
  | finish (result : Result)
  | wait (request : Request) (resume : request.Reply → Search Result)

structure Progress (Result : Type) where
  table : Table
  notices : List Notice
  stop : Stop Result

/-- The search carried on over a table up to the next request that takes time.
The clock and the log answer at once. -/
def Search.advance {Result : Type} (now : Timestamp) (table : Table) :
    Search Result → Progress Result
  | .finish result => ⟨table, [], .finish result⟩
  | .ask .routers resume => advance now table (resume table.routers.toList)
  | .ask (.forget address) resume =>
      advance now (table.forget address) (resume ())
  | .ask (.outside .clock) resume => advance now table (resume now)
  | .ask (.outside (.note notice)) resume =>
      let progress := advance now table (resume ())
      { progress with notices := notice :: progress.notices }
  | .ask (.outside request) resume => ⟨table, [], .wait request resume⟩

end ClusterRouting
