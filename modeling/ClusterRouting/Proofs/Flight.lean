import ClusterRouting.Proofs.Callers

/-! Flights: what a step does to the refreshes of a balancer and to the slot.

A refresh is started into the empty slot, is carried on there, and leaves the
slot with the step in which its outcome appears. -/

namespace ClusterRouting

namespace Step

def progress? (step : Step) :
    Option (Nat × Progress (Except Error Composition)) :=
  (step.before.balancer.turn? step.event).map fun (place, search) =>
    (place, search.advance step.surroundings.now step.before.balancer.table)

theorem turn_of_progress {step : Step} {place : Nat}
    {progress : Progress (Except Error Composition)}
    (progressed : step.progress? = some (place, progress)) :
    ∃ search,
      step.before.balancer.turn? step.event = some (place, search) ∧
        search.advance step.surroundings.now step.before.balancer.table =
          progress := by
  rcases Option.map_eq_some_iff.mp progressed with ⟨found, turn, equal⟩
  simp only [Prod.mk.injEq] at equal
  exact ⟨found.2, by rw [turn, ← equal.1], equal.2⟩

def Settles (step : Step) (place : Nat)
    (progress : Progress (Except Error Composition))
    (result : Except Error Composition) : Prop :=
  step.progress? = some (place, progress) ∧ progress.stop = .finish result

inductive Flight (step : Step) : Prop
  | stays
      (refreshes : step.after.balancer.refreshes =
        step.before.balancer.refreshes)
      (slot : step.after.balancer.slot = step.before.balancer.slot)
  | starts (purpose : Purpose)
      (search : Search (Except Error Composition))
      (event : step.event = .arrive purpose)
      (isOpen : step.before.balancer.closed = false)
      (free : step.before.balancer.slot = none)
      (stale : step.before.balancer.table.isStaleFor step.surroundings.now
        purpose.mode = true)
      (refreshes : step.after.balancer.refreshes =
        step.before.balancer.refreshes ++ [.ready search])
      (slot : step.after.balancer.slot =
        some step.before.balancer.refreshes.length)
      (callers : step.after.callers = step.before.callers ++
        [.waiting purpose step.before.balancer.refreshes.length])
  | goesOn (place : Nat) (old new : Refresh)
      (held : step.before.balancer.slot = some place)
      (found : step.before.balancer.refreshes[place]? = some old)
      (unfinished : old.isUnfinished = true)
      (unended : new.hasEnded = false)
      (refreshes : step.after.balancer.refreshes =
        step.before.balancer.refreshes.set place new)
      (slot : step.after.balancer.slot = some place)
  | finishes (place : Nat) (old : Refresh)
      (progress : Progress (Except Error Composition))
      (result : Except Error Composition)
      (held : step.before.balancer.slot = some place)
      (found : step.before.balancer.refreshes[place]? = some old)
      (unfinished : old.isUnfinished = true)
      (settles : step.Settles place progress result)
      (table : step.after.balancer.table = progress.table.settle result)
      (refreshes : step.after.balancer.refreshes =
        step.before.balancer.refreshes.set place
          (.ended (result.map fun _ => step.after.balancer.table)))
      (slot : step.after.balancer.slot = none)
  | noticed (caller : Nat) (purpose : Purpose) (place : Nat) (fault : String)
      (event : step.event = .look caller)
      (waiting : step.before.callers[caller]? = some (.waiting purpose place))
      (crashed : step.before.balancer.refreshes[place]? =
        some (.crashed fault))
      (table : step.after.balancer.table = step.before.balancer.table)
      (refreshes : step.after.balancer.refreshes =
        step.before.balancer.refreshes.set place
          (.ended (.error (Balancer.brokenDown fault))))
      (slot : step.after.balancer.slot = none)

/-- A step that leaves the refreshes and the slot of the balancer alone. -/
theorem flight_of_balancer {step : Step} {system : System}
    {effects : List Effect} (equal : step.result = (system, effects))
    (refreshes : system.balancer.refreshes = step.before.balancer.refreshes)
    (slot : system.balancer.slot = step.before.balancer.slot) :
    step.Flight := by
  rw [← after_of_result equal] at refreshes slot
  exact .stays refreshes slot

/-- A caller for whom the table is fresh enough leaves them alone. -/
theorem flight_of_advance {step : Step} {system : System} {caller : Nat}
    {result : System × List Effect}
    (advance : system.Advance step.surroundings caller result)
    (equal : step.after = result.1)
    (refreshes : system.balancer.refreshes = step.before.balancer.refreshes)
    (slot : system.balancer.slot = step.before.balancer.slot) :
    step.Flight := by
  rcases advance.moved with ⟨selection, state, moved, _⟩
  rw [moved] at equal
  exact .stays (by rw [equal]; exact refreshes) (by rw [equal]; exact slot)

theorem flight_turn {step : Step} {place : Nat}
    {search : Search (Except Error Composition)}
    (turn : step.before.balancer.turn? step.event = some (place, search))
    (result : step.result = step.before.changed
      (step.before.balancer.carryOn step.surroundings.now place search)) :
    step.Flight := by
  rcases Balancer.underWay_of_turn turn with ⟨old, held, found, unfinished⟩
  have after : step.after.balancer =
      (step.before.balancer.carryOn step.surroundings.now place search).1 :=
    congrArg (·.1.balancer) result
  rcases step.before.balancer.carryOn_cases step.surroundings.now place search
    with ⟨result, stop, equal⟩ | ⟨request, resume, _, equal⟩
  · rw [equal] at after
    exact .finishes place old _ result held found unfinished
      ⟨by simp [progress?, turn], stop⟩ (by rw [after]; simp)
      (by rw [after]; simp) (by rw [after]; simp)
  · rw [equal] at after
    exact .goesOn place old (.waiting request resume) held found unfinished
      rfl (by rw [after]) (by rw [after, ← held])

theorem flight_arrival {step : Step} {purpose : Purpose}
    (event : step.event = .arrive purpose) (arrival : step.Arrival purpose) :
    step.Flight := by
  cases arrival with
  | refused closed result => exact flight_of_balancer result rfl rfl
  | joins place isOpen held result => exact flight_of_balancer result rfl rfl
  | starts text isOpen free stale result =>
      have after := after_of_result result
      exact .starts purpose _ event isOpen free stale
        (congrArg (·.balancer.refreshes) after)
        (congrArg (·.balancer.slot) after) (congrArg (·.callers) after)
  | enters isOpen free fresh result =>
      exact flight_of_advance (System.advance_served _ _ _ purpose)
        (congrArg Prod.fst result) rfl rfl

theorem flight_glance {step : Step} {caller : Nat}
    (event : step.event = .look caller) (glance : step.Glance caller) :
    step.Flight := by
  cases glance with
  | early unfinished result => exact flight_of_balancer result rfl rfl
  | goesOn purpose place table waiting ended result =>
      exact flight_of_advance (System.advance_served _ _ _ purpose)
        (congrArg Prod.fst result) rfl rfl
  | fails purpose place error waiting ended result =>
      exact flight_of_balancer result rfl rfl
  | notices purpose place fault waiting crashed result =>
      have after := after_of_result result
      exact .noticed caller purpose place fault event waiting crashed
        (congrArg (·.balancer.table) after)
        (congrArg (·.balancer.refreshes) after)
        (congrArg (·.balancer.slot) after)

theorem flight_hearing {step : Step} {caller : Nat}
    {reply : Except Error Connection}
    (hearing : step.Hearing caller reply) : step.Flight := by
  cases hearing with
  | stray reply idle result => exact flight_of_balancer result rfl rfl
  | connects mode failed address connection connecting result =>
      exact flight_of_balancer result rfl rfl
  | retries mode failed address error text next connecting connectivity
      attempted result =>
      subst attempted
      exact flight_of_advance (System.advance_attempt _ _ caller mode _)
        (after_of_result result) rfl rfl
  | surrenders mode failed address error connecting connectivity result =>
      exact flight_of_balancer result rfl rfl

theorem flight (step : Step) : step.Flight := by
  cases step.course with
  | arrives purpose event arrival => exact flight_arrival event arrival
  | looks caller event glance => exact flight_glance event glance
  | hears caller reply event hearing => exact flight_hearing hearing
  | turns place search turn result => exact flight_turn turn result
  | crashes place refresh fault event held found unfinished result =>
      have after := after_of_result result
      exact .goesOn place refresh (.crashed fault) held found unfinished rfl
        (congrArg (·.balancer.refreshes) after)
        ((congrArg (·.balancer.slot) after).trans held)
  | reports report event result =>
      cases report with
      | unreachable address => exact flight_of_balancer result rfl rfl
      | refusesWrites address => exact flight_of_balancer result rfl rfl
  | closes event result =>
      rcases step.before.balancer.close_cases with same | closed
      · rw [same] at result
        exact flight_of_balancer result rfl rfl
      · rw [closed] at result
        exact flight_of_balancer result rfl rfl
  | idle event turn result => exact flight_of_balancer result rfl rfl

/-- The result of a refresh is applied to the table, and the slot emptied, in
the same step. -/
theorem settled {step : Step} {place : Nat}
    {progress : Progress (Except Error Composition)}
    {result : Except Error Composition}
    (settles : step.Settles place progress result) :
    step.before.balancer.slot = some place ∧
      step.after.balancer.slot = none ∧
        step.after.balancer.table = progress.table.settle result ∧
          step.after.balancer.refreshes[place]? =
            some (.ended (result.map fun _ => step.after.balancer.table)) := by
  rcases settles with ⟨progressed, stop⟩
  rcases turn_of_progress progressed with ⟨search, turn, rfl⟩
  rcases Balancer.underWay_of_turn turn with ⟨old, slot, found, _⟩
  have bound := (List.getElem?_eq_some_iff.mp found).1
  have after : step.after.balancer =
      (step.before.balancer.carryOn step.surroundings.now place search).1 :=
    congrArg (·.1.balancer) (step.result_of_carryOn turn)
  rcases step.before.balancer.carryOn_cases step.surroundings.now place search
    with ⟨reached, finish, equal⟩ | ⟨request, resume, wait, _⟩
  · rw [finish] at stop
    cases stop
    rw [equal] at after
    rw [after]
    exact ⟨slot, by simp, by simp, by simp [bound]⟩
  · rw [wait] at stop
    cases stop

end Step

end ClusterRouting
