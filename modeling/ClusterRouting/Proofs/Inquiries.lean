import ClusterRouting.Proofs.Consultations
import ClusterRouting.Proofs.Failures
import ClusterRouting.Proofs.Origins

/-! Inquiries: what the searches of a balancer ask, whatever they are told.

A balancer that asks routers by the routing procedure never runs anything else
on their connections, and always sends the routing context that it began
with. -/

namespace ClusterRouting

namespace Dialogue

variable {Request First Second : Type} {Reply : Request → Type}
  {Allowed : Request → Prop}

def Asks (Allowed : Request → Prop) {Result : Type} :
    Dialogue Reply Result → Prop
  | .finish _ => True
  | .ask asked resume => Allowed asked ∧ ∀ reply, Asks Allowed (resume reply)

theorem Asks.bind {dialogue : Dialogue Reply First}
    {next : First → Dialogue Reply Second} (first : dialogue.Asks Allowed)
    (second : ∀ result, (next result).Asks Allowed) :
    (dialogue >>= next).Asks Allowed := by
  induction dialogue with
  | finish result => exact second result
  | ask asked resume induction =>
      exact ⟨first.1, fun reply => induction reply (first.2 reply)⟩

end Dialogue

def Request.Follows (context : Context) : Request → Prop
  | .run connection query parameters =>
      Procedure.mk query parameters = .forVersion context connection.version
  | _ => True

def Inquiry.Follows (context : Context) : Inquiry → Prop
  | .outside request => request.Follows context
  | _ => True

def Provider.Follows (provider : Provider) (context : Context) : Prop :=
  ∀ router, (provider router).Asks (Request.Follows context)

variable {context : Context}

theorem Search.asks_ofExchange {Result : Type} {exchange : Exchange Result}
    (asks : exchange.Asks (Request.Follows context)) :
    (ofExchange exchange).Asks (Inquiry.Follows context) := by
  induction exchange with
  | finish result => trivial
  | ask request resume induction =>
      exact ⟨asks.1, fun reply => induction reply (asks.2 reply)⟩

theorem Provider.asks_settle (outcome : Except Error Procedure.Response) :
    (settle outcome).Asks (Request.Follows context) := by
  rcases settle_cases outcome with ⟨error, equal⟩ | ⟨query, record, equal⟩
  · rw [equal]
    trivial
  · rw [equal]
    exact ⟨trivial, fun _ => trivial⟩

theorem Provider.follows_procedure (context : Context) :
    (procedure context).Follows context := by
  intro router
  rw [procedure_eq]
  refine ⟨trivial, ?_⟩
  rintro (error | connection)
  · trivial
  · -- A notice, the procedure, and the giving back of the connection.
    exact ⟨trivial, fun _ => ⟨rfl, fun _ => ⟨trivial, fun _ =>
      asks_settle _⟩⟩⟩

namespace Discovery

section Follows

variable (discovery : Discovery) {provider : Provider}
  (follows : provider.Follows context)
include follows

theorem asks_askEach (tried : Roster) (routers : List Address) :
    (askEach provider tried routers).Asks (Inquiry.Follows context) := by
  induction routers generalizing tried with
  | nil => trivial
  | cons router rest induction =>
      refine (Search.asks_ofExchange (follows router)).bind fun reply => ?_
      cases reply with
      | ok composition => trivial
      | error error =>
          cases fatal : error.isFatal with
          | true =>
              simp only [fatal, if_true]
              exact ⟨trivial, fun _ => trivial⟩
          | false =>
              simp only [fatal, Bool.false_eq_true, if_false]
              exact ⟨trivial, fun _ => ⟨trivial, fun _ => induction _⟩⟩

omit follows in
theorem asks_resolveInitial :
    discovery.resolveInitial.Asks (Inquiry.Follows context) := by
  refine ⟨trivial, ?_⟩
  rintro (error | addresses)
  · exact ⟨trivial, fun _ => trivial⟩
  · trivial

omit follows in
theorem asks_orElse {search : Search (Finding × Roster)}
    {next : Roster → Search (Finding × Roster)}
    (first : search.Asks (Inquiry.Follows context))
    (second : ∀ tried, (next tried).Asks (Inquiry.Follows context)) :
    (orElse search next).Asks (Inquiry.Follows context) := by
  refine first.bind fun (finding, tried) => ?_
  cases finding with
  | found composition => trivial
  | fatal error => trivial
  | nothing => exact second tried

theorem asks_pass (tried : Roster) :
    (discovery.pass provider tried).Asks (Inquiry.Follows context) := by
  unfold pass
  split
  · rw [initialRouterFirst_eq]
    exact discovery.asks_resolveInitial.bind fun resolved =>
      asks_orElse (asks_askEach follows tried resolved) fun tried =>
        ⟨trivial, fun known => asks_askEach follows tried known⟩
  · rw [knownRoutersFirst_eq]
    exact ⟨trivial, fun known =>
      asks_orElse (asks_askEach follows tried known) fun tried =>
        discovery.asks_resolveInitial.bind fun resolved =>
          asks_askEach follows tried _⟩

omit follows in
theorem asks_closing (result : Finding × Roster) :
    (closing result).Asks (Inquiry.Follows context) := by
  rcases result with ⟨finding, tried⟩
  cases finding with
  | found composition =>
      change (accept composition).Asks (Inquiry.Follows context)
      unfold accept
      cases composition.hasWriters with
      | true => trivial
      | false => exact ⟨trivial, fun _ => trivial⟩
  | fatal error => trivial
  | nothing => trivial

theorem asks_passes (tried : Roster) (delay : Duration) (more : Nat) :
    (discovery.passes provider tried delay more).Asks
      (Inquiry.Follows context) := by
  induction more generalizing tried delay with
  | zero =>
      rw [passes_zero]
      exact (discovery.asks_pass follows tried).bind asks_closing
  | succ more induction =>
      rw [passes_succ]
      refine (discovery.asks_pass follows tried).bind
        fun (finding, tried) => ?_
      cases finding with
      | found composition => exact asks_closing (.found composition, tried)
      | fatal error => exact asks_closing (.fatal error, tried)
      | nothing =>
          exact ⟨trivial, fun _ => ⟨trivial, fun _ => induction tried _⟩⟩

theorem asks_search :
    (discovery.search provider).Asks (Inquiry.Follows context) :=
  discovery.asks_passes follows .empty .zero _

end Follows

end Discovery

/-- Carried on, a search asks what it would have asked. -/
theorem Search.asks_advance (now : Timestamp) (table : Table)
    {Result : Type} {search : Search Result}
    (asks : search.Asks (Inquiry.Follows context)) {request : Request}
    {resume : request.Reply → Search Result}
    (stop : (search.advance now table).stop = .wait request resume) :
    request.Follows context ∧
      ∀ reply, (resume reply).Asks (Inquiry.Follows context) := by
  induction search generalizing table with
  | finish result => cases stop
  | ask inquiry next induction =>
      cases inquiry with
      | routers => exact induction _ table (asks.2 _) stop
      | forget address => exact induction () _ (asks.2 ()) stop
      | outside asked =>
          cases asked with
          | clock => exact induction now table (asks.2 now) stop
          | note notice => exact induction () table (asks.2 ()) stop
          | _ =>
              cases stop
              exact asks

def Refresh.Follows (context : Context) : Refresh → Prop
  | .ready search => search.Asks (Inquiry.Follows context)
  | .waiting _ resume =>
      ∀ reply, (resume reply).Asks (Inquiry.Follows context)
  | .ended _ | .crashed _ => True

structure Balancer.Follows (balancer : Balancer) (context : Context) :
    Prop where
  provider : balancer.provider.Follows context
  refreshes : ∀ refresh ∈ balancer.refreshes, refresh.Follows context

theorem Balancer.Follows.asks_of_turn {balancer : Balancer}
    (follows : balancer.Follows context) {event : Event} {place : Nat}
    {search : Search (Except Error Composition)}
    (turn : balancer.turn? event = some (place, search)) :
    search.Asks (Inquiry.Follows context) := by
  rcases mem_of_turn turn with ready | ⟨request, resume, reply, waiting, rfl⟩
  · exact follows.refreshes _ ready
  · exact follows.refreshes _ waiting reply

namespace Step

variable {step : Step} (follows : step.before.balancer.Follows context)
include follows

theorem follows_of_stops {request : Request}
    {resume : request.Reply → Search (Except Error Composition)}
    (stops : step.Stops (.wait request resume)) :
    request.Follows context ∧
      ∀ reply, (resume reply).Asks (Inquiry.Follows context) := by
  rcases stops with ⟨place, search, turn, stop⟩
  exact Search.asks_advance _ _ (follows.asks_of_turn turn) stop

theorem follows_after : step.after.balancer.Follows context where
  provider := step.keeps.provider ▸ follows.provider
  refreshes := by
    intro refresh member
    cases step.keeps.origin refresh member with
    | stayed member => exact follows.refreshes refresh member
    | started => exact Discovery.asks_search _ follows.provider
    | waits stops => exact (follows_of_stops follows stops).2
    | settled table stops => trivial
    | crashed fault => trivial
    | noticed fault => trivial

theorem follows_of_ask {request : Request}
    (asked : .ask request ∈ step.effects) : request.Follows context := by
  rcases step.keeps.asks request asked with ⟨resume, stops⟩
  exact (follows_of_stops follows stops).1

end Step

/-- However a run goes on, all that it asks follows the routing context. -/
theorem System.follows_of_ask {system : System}
    (initial : system.balancer.Follows context)
    {inputs : List (Surroundings × Event)} {step : Step}
    (member : step ∈ system.trace inputs) {request : Request}
    (asked : .ask request ∈ step.effects) : request.Follows context := by
  have follows : step.before.balancer.Follows context :=
    @trace_preserves (fun system => system.balancer.Follows context)
      (fun _ follows => Step.follows_after follows) _ initial _ _ member
  exact Step.follows_of_ask follows asked

end ClusterRouting
