import ClusterRouting.Context
import ClusterRouting.Duration

/-! Settings: how often and how patiently routers are asked, in which order,
and how a server is picked among several of one role. -/

namespace ClusterRouting

inductive Backoff where
  | fixed
  | exponential
  deriving DecidableEq, Repr

inductive RouterOrder where
  | knownRoutersFirst
  | initialRouterFirst
  deriving DecidableEq, Repr

inductive Policy where
  | leastConnected
  | roundRobin
  | random
  deriving DecidableEq, Repr

structure Settings where
  maxRoutingFailures : UInt32 := 1
  retryDelay : Duration := .ofSeconds 5 0
  backoff : Backoff := .exponential
  routerOrder : RouterOrder := .knownRoutersFirst
  policy : Policy := .leastConnected
  context : Context := .empty
  deriving DecidableEq

namespace Settings

def check (settings : Settings) : Except Error Settings :=
  if settings.maxRoutingFailures = 0 then
    .error (.configuration "max_routing_failures must be greater than zero")
  else .ok settings

def nextDelay (settings : Settings) (previous : Duration) : Duration :=
  match settings.backoff with
  | .fixed => settings.retryDelay
  | .exponential => settings.retryDelay.longer previous.double

/-- The number of passes over the routers; there is always one. -/
def passes (settings : Settings) : Nat :=
  max settings.maxRoutingFailures.toNat 1

end Settings

end ClusterRouting
