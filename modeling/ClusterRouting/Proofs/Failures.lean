import ClusterRouting.Proofs.Flight
import ClusterRouting.Proofs.Origins

/-! Failures: why a refresh can fail, and what it finds if it does not.

A search ends without a composition by a failure that no other router could
mend, or because it has used up its passes. A refresh that breaks down fails in
a way of its own. So whoever shares the failure of a refresh is never told what
a caller is told for whom no server is left. A search that succeeds has just
been given its composition by the provider. -/

namespace ClusterRouting

namespace Search

variable {First Second Result : Type}

/-- Every result of the search has a property at the moment at which it comes,
whatever the replies are. The search goes on at once except for the replies
that take time, which come at any moment. -/
def Yields (Property : Timestamp → Result → Prop) :
    Search Result → Timestamp → Prop
  | .finish result, now => Property now result
  | .ask .routers resume, now => ∀ reply, Yields Property (resume reply) now
  | .ask (.forget _) resume, now => Yields Property (resume ()) now
  | .ask (.outside .clock) resume, now => Yields Property (resume now) now
  | .ask (.outside (.note _)) resume, now => Yields Property (resume ()) now
  | .ask (.outside _) resume, _ =>
      ∀ reply later, Yields Property (resume reply) later

theorem Yields.of_forall {Property : Timestamp → Result → Prop}
    (always : ∀ now result, Property now result) (search : Search Result)
    (now : Timestamp) : search.Yields Property now := by
  induction search generalizing now with
  | finish result => exact always now result
  | ask inquiry resume induction =>
      cases inquiry with
      | routers => exact fun reply => induction reply now
      | forget address => exact induction () now
      | outside request =>
          cases request with
          | clock => exact induction now now
          | note notice => exact induction () now
          | _ => exact induction

/-- The second search has to yield the property only for results that the first
one yields, and from the moment on at which it does. -/
theorem Yields.bind {Property : Timestamp → First → Prop}
    {Later : Timestamp → Second → Prop} {search : Search First}
    {next : First → Search Second} {now : Timestamp}
    (first : search.Yields Property now)
    (second : ∀ now result, Property now result →
      (next result).Yields Later now) :
    (search >>= next).Yields Later now := by
  induction search generalizing now with
  | finish result => exact second now result first
  | ask inquiry resume induction =>
      cases inquiry with
      | routers => exact fun reply => induction reply (first reply)
      | forget address => exact induction () first
      | outside request =>
          cases request with
          | clock => exact induction now first
          | note notice => exact induction () first
          | _ => exact fun reply later => induction reply (first reply later)

def StopYields (Property : Timestamp → Result → Prop) (now : Timestamp) :
    Stop Result → Prop
  | .finish result => Property now result
  | .wait _ resume => ∀ reply later, Yields Property (resume reply) later

/-- Carried on, a search yields what it would have yielded. -/
theorem advance_yields {Property : Timestamp → Result → Prop}
    (now : Timestamp) (table : Table) {search : Search Result}
    (yields : search.Yields Property now) :
    StopYields Property now (search.advance now table).stop := by
  induction search generalizing table with
  | finish result => exact yields
  | ask inquiry resume induction =>
      cases inquiry with
      | routers => exact induction _ table (yields _)
      | forget address => exact induction () (table.forget address) yields
      | outside request =>
          cases request with
          | clock => exact induction now table yields
          | note notice => exact induction () table yields
          | acquire address => exact yields
          | run connection query parameters => exact yields
          | release connection => exact yields
          | compose router => exact yields
          | resolve address => exact yields
          | pause delay => exact yields

end Search

def Provider.Finds (provider : Provider)
    (Property : Timestamp → Composition → Prop) : Prop :=
  ∀ router now, (Search.ofExchange (provider router)).Yields
    (fun now reply => ∀ composition, reply = .ok composition →
      Property now composition) now

theorem Provider.finds_any (provider : Provider) :
    provider.Finds fun _ _ => True :=
  fun _ now => .of_forall (fun _ _ _ _ => trivial) _ now

namespace Error

def EndsSearch (error : Error) : Prop :=
  error.isFatal = true ∨ ∃ tried, error = Discovery.exhausted tried

def LacksServer (error : Error) : Prop :=
  ∃ rest, error = .noServerAvailable ("Failed to obtain connection" ++ rest)

theorem EndsSearch.not_lacksServer {error : Error}
    (ends : error.EndsSearch) : ¬ error.LacksServer := by
  rintro ⟨rest, equal⟩
  rcases ends with fatal | ⟨tried, exhausted⟩
  · rw [equal] at fatal
    cases fatal
  · rw [exhausted] at equal
    injection equal with texts
    -- The two texts differ in their first letter.
    have letters := congrArg String.toList texts
    simp at letters

end Error

namespace Discovery

def Finding.Final (Property : Timestamp → Composition → Prop)
    (now : Timestamp) : Finding → Prop
  | .found composition => Property now composition
  | .fatal error => error.isFatal = true
  | .nothing => True

section Yields

variable {Property : Timestamp → Composition → Prop} {provider : Provider}
  (finds : provider.Finds Property)
include finds

theorem askEach_yields (tried : Roster) (routers : List Address)
    (now : Timestamp) :
    (askEach provider tried routers).Yields
      (fun now (finding, _) => finding.Final Property now) now := by
  induction routers generalizing tried now with
  | nil => trivial
  | cons router rest induction =>
      refine (finds router now).bind fun now reply found => ?_
      cases reply with
      | ok composition => exact found composition rfl
      | error error =>
          cases fatal : error.isFatal with
          | true =>
              simp only [fatal, if_true]
              exact fatal
          | false =>
              simp only [fatal, Bool.false_eq_true, if_false]
              exact induction _ now

end Yields

def orElse (search : Search (Finding × Roster))
    (next : Roster → Search (Finding × Roster)) :
    Search (Finding × Roster) := do
  match ← search with
  | (.nothing, tried) => next tried
  | done => return done

theorem knownRoutersFirst_eq (discovery : Discovery) (provider : Provider)
    (tried : Roster) :
    discovery.knownRoutersFirst provider tried =
      Search.routers >>= fun known =>
        orElse (askEach provider tried known) fun tried =>
          discovery.resolveInitial >>= fun resolved =>
            askEach provider tried (resolved.filter (!known.contains ·)) :=
  rfl

theorem initialRouterFirst_eq (discovery : Discovery) (provider : Provider)
    (tried : Roster) :
    discovery.initialRouterFirst provider tried =
      discovery.resolveInitial >>= fun resolved =>
        orElse (askEach provider tried resolved) fun tried =>
          Search.routers >>= askEach provider tried :=
  rfl

theorem orElse_yields {Property : Timestamp → Composition → Prop}
    {search : Search (Finding × Roster)}
    {next : Roster → Search (Finding × Roster)} {now : Timestamp}
    (first : search.Yields
      (fun now (finding, _) => finding.Final Property now) now)
    (second : ∀ tried now, (next tried).Yields
      (fun now (finding, _) => finding.Final Property now) now) :
    (orElse search next).Yields
      (fun now (finding, _) => finding.Final Property now) now := by
  refine first.bind fun now (finding, tried) final => ?_
  cases finding with
  | found composition => exact final
  | fatal error => exact final
  | nothing => exact second tried now

def interlude (delay : Duration) : Search Unit := do
  Search.note .info
    ("Unable to fetch new routing table, will try again in " ++
      toString delay.milliseconds ++ "ms")
  Search.pause delay

def conclusion : Finding × Roster → Except Error Composition
  | (.found composition, _) => .ok composition
  | (.fatal error, _) => .error error
  | (.nothing, tried) => .error (exhausted tried)

def accept (composition : Composition) :
    Search (Except Error Composition) := do
  unless composition.hasWriters do
    Search.note .debug
      ("Received routing table without writers, will query the initial " ++
        "router next time")
  return .ok composition

def closing : Finding × Roster → Search (Except Error Composition)
  | (.found composition, _) => accept composition
  | result => return conclusion result

theorem passes_zero (discovery : Discovery) (provider : Provider)
    (tried : Roster) (delay : Duration) :
    discovery.passes provider tried delay 0 =
      discovery.pass provider tried >>= closing := by
  rw [passes]
  apply congrArg (discovery.pass provider tried >>= ·)
  funext ⟨finding, tried⟩
  cases finding <;> rfl

theorem passes_succ (discovery : Discovery) (provider : Provider)
    (tried : Roster) (delay : Duration) (more : Nat) :
    discovery.passes provider tried delay (more + 1) =
      discovery.pass provider tried >>= fun
        | (.nothing, tried) =>
            interlude (discovery.settings.nextDelay delay) >>= fun _ =>
              discovery.passes provider tried
                (discovery.settings.nextDelay delay) more
        | done => closing done := by
  rw [passes]
  apply congrArg (discovery.pass provider tried >>= ·)
  funext ⟨finding, tried⟩
  cases finding <;> rfl

def Justified (Property : Timestamp → Composition → Prop) (now : Timestamp) :
    Except Error Composition → Prop
  | .ok composition => Property now composition
  | .error error => error.EndsSearch

section Justified

variable {Property : Timestamp → Composition → Prop}

theorem closing_yields (now : Timestamp) (result : Finding × Roster)
    (final : result.1.Final Property now) :
    (closing result).Yields (Justified Property) now := by
  rcases result with ⟨finding, tried⟩
  cases finding with
  | found composition =>
      change (accept composition).Yields (Justified Property) now
      unfold accept
      cases composition.hasWriters <;> exact final
  | fatal error => exact .inl final
  | nothing => exact .inr ⟨tried, rfl⟩

variable (discovery : Discovery) {provider : Provider}
  (finds : provider.Finds Property)
include finds

theorem pass_yields (tried : Roster) (now : Timestamp) :
    (discovery.pass provider tried).Yields
      (fun now (finding, _) => finding.Final Property now) now := by
  unfold pass
  split
  · rw [initialRouterFirst_eq]
    refine (Search.Yields.of_forall (fun _ _ => trivial) _ now).bind
      fun now resolved _ => ?_
    exact orElse_yields (askEach_yields finds tried resolved now)
      fun tried now _ => askEach_yields finds tried _ now
  · rw [knownRoutersFirst_eq]
    refine fun known => orElse_yields (askEach_yields finds tried known now)
      fun tried now => ?_
    exact (Search.Yields.of_forall (fun _ _ => trivial) _ now).bind
      fun now resolved _ => askEach_yields finds tried _ now

theorem passes_yields (tried : Roster) (delay : Duration) (more : Nat)
    (now : Timestamp) :
    (discovery.passes provider tried delay more).Yields
      (Justified Property) now := by
  induction more generalizing tried delay now with
  | zero =>
      rw [passes_zero]
      exact (discovery.pass_yields finds tried now).bind closing_yields
  | succ more induction =>
      rw [passes_succ]
      refine (discovery.pass_yields finds tried now).bind
        fun now (finding, tried) final => ?_
      cases finding with
      | found composition =>
          exact closing_yields now (.found composition, tried) final
      | fatal error => exact closing_yields now (.fatal error, tried) final
      | nothing => exact fun _ later => induction tried _ later

theorem search_yields (now : Timestamp) :
    (discovery.search provider).Yields (Justified Property) now :=
  discovery.passes_yields finds .empty .zero _ now

end Justified

end Discovery

def Refresh.Justified (Property : Timestamp → Composition → Prop) :
    Refresh → Prop
  | .ready search => ∀ now, search.Yields (Discovery.Justified Property) now
  | .waiting _ resume => ∀ reply now,
      Search.Yields (Discovery.Justified Property) (resume reply) now
  | .ended (.error error) =>
      error.EndsSearch ∨ ∃ fault, error = Balancer.brokenDown fault
  | .ended (.ok _) | .crashed _ => True

structure Balancer.Justified (Property : Timestamp → Composition → Prop)
    (balancer : Balancer) : Prop where
  provider : balancer.provider.Finds Property
  refreshes : ∀ refresh ∈ balancer.refreshes, refresh.Justified Property

section Justified

variable {Property : Timestamp → Composition → Prop}

theorem Balancer.Justified.yields_of_turn {balancer : Balancer}
    (justified : balancer.Justified Property) {event : Event} {place : Nat}
    {search : Search (Except Error Composition)}
    (turn : balancer.turn? event = some (place, search)) (now : Timestamp) :
    search.Yields (Discovery.Justified Property) now := by
  rcases mem_of_turn turn with ready | ⟨request, resume, reply, waiting, rfl⟩
  · exact justified.refreshes _ ready now
  · exact justified.refreshes _ waiting reply now

namespace Step

variable {step : Step}

theorem yields_of_stops (justified : step.before.balancer.Justified Property)
    {stop : Stop (Except Error Composition)} (stops : step.Stops stop) :
    Search.StopYields (Discovery.Justified Property) step.surroundings.now
      stop := by
  rcases stops with ⟨place, search, turn, rfl⟩
  exact search.advance_yields _ _ (justified.yields_of_turn turn _)

theorem justified_after (justified : step.before.balancer.Justified Property) :
    step.after.balancer.Justified Property where
  provider := step.keeps.provider ▸ justified.provider
  refreshes := by
    intro refresh member
    cases step.keeps.origin refresh member with
    | stayed member => exact justified.refreshes refresh member
    | started =>
        exact fun now => Discovery.search_yields _ justified.provider now
    | waits stops => exact yields_of_stops justified stops
    | @settled result table stops =>
        have ends := yields_of_stops justified stops
        cases result with
        | ok composition => trivial
        | error error => exact .inl ends
    | crashed fault => trivial
    | noticed fault => exact .inr ⟨fault, rfl⟩

/-- A refresh that succeeds has found its composition at the moment of the
step. -/
theorem property_of_settles
    (justified : step.before.balancer.Justified Property)
    {place : Nat} {progress : Progress (Except Error Composition)}
    {composition : Composition}
    (settles : step.Settles place progress (.ok composition)) :
    Property step.surroundings.now composition := by
  rcases turn_of_progress settles.1 with ⟨search, turn, rfl⟩
  exact yields_of_stops justified ⟨place, search, turn, settles.2⟩

end Step

namespace Balancer.Justified

/-- Nobody who shares the failure of a refresh is told that no server is
left. -/
theorem not_lacksServer {balancer next : Balancer}
    (justified : balancer.Justified Property) {place : Nat} {error : Error}
    (seen : balancer.outcome? place = some (next, .error error)) :
    ¬ error.LacksServer := by
  have brokenDown (fault : String) :
      ¬ (Balancer.brokenDown fault).LacksServer := by
    intro lacks
    rcases lacks with ⟨rest, equal⟩
    cases equal
  unfold Balancer.outcome? at seen
  split at seen
  · rename_i outcome found
    cases seen
    rcases justified.refreshes _ (List.mem_of_getElem? found) with
      ends | ⟨fault, broken⟩
    · exact ends.not_lacksServer
    · exact broken ▸ brokenDown fault
  · rename_i fault found
    cases seen
    exact brokenDown fault
  · cases seen

end Balancer.Justified

end Justified

end ClusterRouting
