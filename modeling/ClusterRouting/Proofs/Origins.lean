import ClusterRouting.Proofs.Callers

/-! Origins: where the refreshes of a balancer come from, and what they ask.

A refresh is begun with the provider that the balancer has from its beginning.
After that it is only ever carried on, until it ends or breaks down. So what
holds of all searches with that provider, and stays true while they are carried
on, holds of all refreshes. -/

namespace ClusterRouting

namespace Balancer

variable {balancer : Balancer} {event : Event} {place : Nat}
  {search : Search (Except Error Composition)}

/-- The search that is carried on has not begun, or waits for the reply. -/
theorem mem_of_turn (turn : balancer.turn? event = some (place, search)) :
    .ready search ∈ balancer.refreshes ∨
      ∃ request resume reply, .waiting request resume ∈ balancer.refreshes ∧
        search = resume reply := by
  have held {place : Nat} {refresh : Refresh}
      (underWay : balancer.underWay = some (place, refresh)) :
      refresh ∈ balancer.refreshes :=
    List.mem_of_getElem? (underWay_eq_some_iff.mp underWay).2
  unfold turn? at turn
  split at turn
  · split at turn
    · rename_i underWay
      cases turn
      exact .inl (held underWay)
    · cases turn
  · split at turn
    · rename_i underWay
      rcases Option.map_eq_some_iff.mp turn with ⟨reply, _, equal⟩
      cases equal
      exact .inr ⟨_, _, reply, held underWay, rfl⟩
    · cases turn
  · cases turn

end Balancer

namespace Step

variable {step : Step}

def Stops (step : Step) (stop : Stop (Except Error Composition)) : Prop :=
  ∃ place search,
    step.before.balancer.turn? step.event = some (place, search) ∧
      (search.advance step.surroundings.now step.before.balancer.table).stop =
        stop

inductive Origin (step : Step) : Refresh → Prop
  | stayed {refresh : Refresh}
      (member : refresh ∈ step.before.balancer.refreshes) :
      Origin step refresh
  | started : Origin step
      (.ready (step.before.balancer.discovery.search
        step.before.balancer.provider))
  | waits {request : Request}
      {resume : request.Reply → Search (Except Error Composition)}
      (stops : step.Stops (.wait request resume)) :
      Origin step (.waiting request resume)
  | settled {result : Except Error Composition} (table : Table)
      (stops : step.Stops (.finish result)) :
      Origin step (.ended (result.map fun _ => table))
  | crashed (fault : String) : Origin step (.crashed fault)
  | noticed (fault : String) :
      Origin step (.ended (.error (Balancer.brokenDown fault)))

structure Keeps (step : Step) (result : System × List Effect) : Prop where
  provider : result.1.balancer.provider = step.before.balancer.provider
  origin : ∀ refresh ∈ result.1.balancer.refreshes, step.Origin refresh
  asks : ∀ request, .ask request ∈ result.2 →
    ∃ resume, step.Stops (.wait request resume)

namespace Keeps

variable {system : System} {effects : List Effect} {caller : Nat}

theorem of_refreshes
    (provider : system.balancer.provider = step.before.balancer.provider)
    (refreshes : system.balancer.refreshes = step.before.balancer.refreshes)
    (silent : ∀ request, .ask request ∉ effects) :
    step.Keeps (system, effects) where
  provider := provider
  origin := fun _ member => .stayed (refreshes ▸ member)
  asks := fun request asked => absurd asked (silent request)

theorem of_set {place : Nat} {refresh : Refresh}
    (provider : system.balancer.provider = step.before.balancer.provider)
    (refreshes : system.balancer.refreshes =
      step.before.balancer.refreshes.set place refresh)
    (origin : step.Origin refresh)
    (asks : ∀ request, .ask request ∈ effects →
      ∃ resume, step.Stops (.wait request resume)) :
    step.Keeps (system, effects) where
  provider := provider
  origin := by
    intro other member
    change other ∈ system.balancer.refreshes at member
    rw [refreshes] at member
    rcases List.mem_or_eq_of_mem_set member with old | equal
    · exact .stayed old
    · exact equal ▸ origin
  asks := asks

/-- A caller for whom the table is fresh enough leaves all refreshes alone. -/
theorem of_advance {result : System × List Effect} (before : List Effect)
    (advance : system.Advance step.surroundings caller result)
    (provider : system.balancer.provider = step.before.balancer.provider)
    (refreshes : system.balancer.refreshes = step.before.balancer.refreshes)
    (silent : ∀ request, .ask request ∉ before) :
    step.Keeps (result.1, before ++ result.2) := by
  rcases advance.moved with ⟨selection, state, moved, _⟩
  apply of_refreshes
  · rw [moved]
    exact provider
  · rw [moved]
    exact refreshes
  · intro request asked
    rcases List.mem_append.mp asked with early | late
    · exact silent request early
    · cases advance with
      | verified equal => simp [equal] at late
      | asks mode failed address selection notices picked equal =>
          simp [equal] at late
      | lacks mode failed selection notices picked equal =>
          simp [equal] at late

theorem of_arrival {purpose : Purpose} (arrival : step.Arrival purpose) :
    step.Keeps step.result := by
  cases arrival with
  | refused closed result =>
      rw [result]
      exact of_refreshes rfl rfl (by simp)
  | joins place isOpen held result =>
      rw [result]
      exact of_refreshes rfl rfl (by simp)
  | starts text isOpen free stale result =>
      rw [result]
      refine ⟨rfl, ?_, by simp⟩
      intro refresh member
      rcases List.mem_append.mp member with old | new
      · exact .stayed old
      · rw [List.mem_singleton.mp new]
        exact .started
  | enters isOpen free fresh result =>
      rw [result]
      exact of_advance [] (System.advance_served _ _ _ purpose) rfl rfl
        (by simp)

theorem of_glance {caller : Nat} (glance : step.Glance caller) :
    step.Keeps step.result := by
  cases glance with
  | early unfinished result =>
      rw [result]
      exact of_refreshes rfl rfl (by simp)
  | goesOn purpose place table waiting ended result =>
      rw [result]
      exact of_advance [] (System.advance_served _ _ _ purpose) rfl rfl
        (by simp)
  | fails purpose place error waiting ended result =>
      rw [result]
      exact of_refreshes rfl rfl (by simp)
  | notices purpose place fault waiting crashed result =>
      rw [result]
      exact of_set rfl rfl (.noticed fault) (by simp)

theorem of_hearing {caller : Nat} {reply : Except Error Connection}
    (hearing : step.Hearing caller reply) : step.Keeps step.result := by
  cases hearing with
  | stray reply idle result =>
      rw [result]
      exact of_refreshes rfl rfl (by simp)
  | connects mode failed address connection connecting result =>
      rw [result]
      exact of_refreshes rfl rfl (by simp)
  | retries mode failed address error text next connecting connectivity
      attempted result =>
      rw [result, attempted]
      exact of_advance [_, _] (System.advance_attempt _ _ _ _ _) rfl rfl
        (by simp)
  | surrenders mode failed address error connecting connectivity result =>
      rw [result]
      exact of_refreshes rfl rfl (by simp)

theorem of_turn {place : Nat} {search : Search (Except Error Composition)}
    (turn : step.before.balancer.turn? step.event = some (place, search)) :
    step.Keeps (step.before.changed
      (step.before.balancer.carryOn step.surroundings.now place search)) := by
  rcases step.before.balancer.carryOn_cases step.surroundings.now place search
    with ⟨result, stop, equal⟩ | ⟨request, resume, stop, equal⟩
  · rw [equal]
    refine of_set (Balancer.conclude_provider _ _ _ _)
      (Balancer.conclude_refreshes _ _ _ _)
      (.settled _ ⟨place, search, turn, stop⟩) ?_
    cases result <;> simp [Balancer.conclude]
  · rw [equal]
    have stops : step.Stops (.wait request resume) :=
      ⟨place, search, turn, stop⟩
    refine of_set rfl rfl (.waits stops) ?_
    intro other asked
    simp only [List.mem_append, List.mem_map, reduceCtorEq, and_false,
      exists_false, List.mem_singleton, Effect.ask.injEq, false_or] at asked
    exact asked ▸ ⟨resume, stops⟩

end Keeps

theorem keeps (step : Step) : step.Keeps step.result := by
  cases step.course with
  | arrives purpose event arrival => exact .of_arrival arrival
  | looks caller event glance => exact .of_glance glance
  | hears caller reply event hearing => exact .of_hearing hearing
  | turns place search turn result =>
      rw [result]
      exact .of_turn turn
  | crashes place refresh fault event held found unfinished result =>
      rw [result]
      exact .of_set rfl rfl (.crashed fault) (by simp)
  | reports report event result =>
      rw [result]
      cases report <;> exact .of_refreshes rfl rfl (by simp [Balancer.report])
  | closes event result =>
      rw [result]
      rcases step.before.balancer.close_cases with same | closed
      · rw [same]
        exact .of_refreshes rfl rfl (by simp)
      · rw [closed]
        exact .of_refreshes rfl rfl (by simp)
  | idle event turn result =>
      rw [result]
      exact .of_refreshes rfl rfl (by simp)

end Step

end ClusterRouting
