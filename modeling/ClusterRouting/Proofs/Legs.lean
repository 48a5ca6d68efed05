import ClusterRouting.Proofs.SingleFlight

/-! Legs: what a step means for the call of one caller.

A call waits for a refresh, asks the pool for one server after another, and
comes to an end. Every step takes it one leg further or leaves it where it
is. -/

namespace ClusterRouting

namespace Effect

def asked? (caller : Nat) : Effect → Option Address
  | .acquire other address => if other = caller then some address else none
  | .note _ | .purge _ | .ask _ | .closePool => none

def asks (caller : Nat) (effects : List Effect) : List Address :=
  effects.filterMap (asked? caller)

theorem mem_asks {caller : Nat} {effects : List Effect} {address : Address} :
    address ∈ asks caller effects ↔ .acquire caller address ∈ effects := by
  unfold asks
  constructor
  · intro member
    rcases List.mem_filterMap.mp member with ⟨effect, found, equal⟩
    cases effect with
    | acquire other server =>
        simp only [asked?, Option.ite_none_right_eq_some,
          Option.some.injEq] at equal
        rcases equal with ⟨rfl, rfl⟩
        exact found
    | note notice => cases equal
    | purge server => cases equal
    | ask request => cases equal
    | closePool => cases equal
  · intro member
    exact List.mem_filterMap.mpr
      ⟨.acquire caller address, member, by simp [asked?]⟩

@[simp] theorem asks_append (caller : Nat) (first second : List Effect) :
    asks caller (first ++ second) = asks caller first ++ asks caller second :=
  List.filterMap_append

@[simp] theorem asks_notes (caller : Nat) (notices : List Notice) :
    asks caller (notices.map .note) = [] := by
  induction notices with
  | nil => rfl
  | cons notice rest induction => exact induction

@[simp] theorem asks_acquire (caller : Nat) (address : Address) :
    asks caller [.acquire caller address] = [address] := by
  simp [asks, asked?]

end Effect

namespace System

inductive Attempt (system : System) (surroundings : Surroundings)
    (caller : Nat) (mode : AccessMode) (failed : List Address)
    (result : System × List Effect) : Prop
  | asks (address : Address) (selection : Selection) (notices : List Notice)
      (listed : address ∈ (system.balancer.table.servers mode).toList)
      (unfailed : address ∉ failed)
      (equal : result =
        (system.setCaller { system.balancer with selection } caller
          (.connecting mode failed address),
          notices.map .note ++ [.acquire caller address]))
  | lacks (selection : Selection) (notices : List Notice)
      (exhausted : ∀ address ∈ (system.balancer.table.servers mode).toList,
        address ∈ failed)
      (equal : result =
        (system.setCaller { system.balancer with selection } caller
          (.done (.failed (system.balancer.noServer surroundings.now mode))),
          notices.map .note))

theorem attempt_cases (system : System) (surroundings : Surroundings)
    (caller : Nat) (mode : AccessMode) (failed : List Address) :
    system.Attempt surroundings caller mode failed
      (system.attempt surroundings caller mode failed) := by
  let pick := system.balancer.selection.pick surroundings mode
    (system.balancer.candidates mode failed)
  cases found : pick.address? with
  | some address =>
      have picked : system.balancer.select surroundings mode failed =
          ({ system.balancer with selection := pick.selection },
            pick.notices.map .note, some address) := by
        rw [← found]
        rfl
      have member := Balancer.mem_of_select picked
      exact .asks address pick.selection pick.notices member.1 member.2
        (by simp only [attempt, picked])
  | none =>
      have picked : system.balancer.select surroundings mode failed =
          ({ system.balancer with selection := pick.selection },
            pick.notices.map .note, none) := by
        rw [← found]
        rfl
      exact .lacks pick.selection pick.notices
        (fun _ listed => Balancer.mem_failed_of_select picked listed)
        (by simp only [attempt, picked]; rfl)

end System

namespace Step

def Comes (step : Step) (caller : Nat) (purpose : Purpose) : Prop :=
  step.event = .arrive purpose ∧ step.before.callers.length = caller

def asked (step : Step) (caller : Nat) : List Address :=
  Effect.asks caller step.effects

def failed? (step : Step) (caller : Nat) : Option Address :=
  match step.event with
  | .pooled other (.error error) =>
      match step.before.callers[caller]? with
      | some (.connecting _ _ address) =>
          if other = caller && error.isConnectivity then some address
          else none
      | _ => none
  | _ => none

inductive Selects (step : Step) (caller : Nat) (mode : AccessMode) :
    List Address → Prop
  | enters (comes : step.Comes caller (.acquire mode))
      (isOpen : step.before.balancer.closed = false)
      (free : step.before.balancer.slot = none)
      (fresh : step.before.balancer.table.isStaleFor step.surroundings.now
        mode = false) : Selects step caller mode []
  | served (place : Nat) (table : Table) (event : step.event = .look caller)
      (waiting : step.before.callers[caller]? =
        some (.waiting (.acquire mode) place))
      (ended : step.before.balancer.refreshes[place]? =
        some (.ended (.ok table))) : Selects step caller mode []
  | retries (failed : List Address) (address : Address) (error : Error)
      (event : step.event = .pooled caller (.error error))
      (connecting : step.before.callers[caller]? =
        some (.connecting mode failed address))
      (connectivity : error.isConnectivity = true) :
      Selects step caller mode (failed ++ [address])

inductive Ending (step : Step) (caller : Nat) : Outcome → Prop
  | refused (purpose : Purpose) (comes : step.Comes caller purpose)
      (closed : step.before.balancer.closed = true) :
      Ending step caller (.failed Balancer.closedError)
  | verified : Ending step caller .verified
  | shared (purpose : Purpose) (place : Nat) (balancer : Balancer)
      (error : Error) (event : step.event = .look caller)
      (waiting : step.before.callers[caller]? = some (.waiting purpose place))
      (seen : step.before.balancer.outcome? place =
        some (balancer, .error error)) :
      Ending step caller (.failed error)
  | connects (mode : AccessMode) (failed : List Address) (address : Address)
      (connection : Connection)
      (event : step.event = .pooled caller (.ok connection))
      (connecting : step.before.callers[caller]? =
        some (.connecting mode failed address)) :
      Ending step caller (.connected ⟨connection, mode⟩)
  | surrenders (mode : AccessMode) (failed : List Address)
      (address : Address) (error : Error)
      (event : step.event = .pooled caller (.error error))
      (connecting : step.before.callers[caller]? =
        some (.connecting mode failed address))
      (connectivity : error.isConnectivity = false) :
      Ending step caller (.failed error)

inductive Leg (step : Step) (caller : Nat) : Prop
  | rests
      (same : step.after.callers[caller]? = step.before.callers[caller]?)
      (silent : step.asked caller = [])
      (unfailed : step.failed? caller = none)
  | waits (purpose : Purpose) (place : Nat)
      (comes : step.Comes caller purpose)
      (moved : step.after.callers[caller]? = some (.waiting purpose place))
      (silent : step.asked caller = [])
  | asks (mode : AccessMode) (failed : List Address) (address : Address)
      (selects : step.Selects caller mode failed)
      (moved : step.after.callers[caller]? =
        some (.connecting mode failed address))
      (asked : step.asked caller = [address])
      (listed : address ∈ (step.after.balancer.table.servers mode).toList)
      (unfailed : address ∉ failed)
  | lacks (mode : AccessMode) (failed : List Address)
      (selects : step.Selects caller mode failed)
      (moved : step.after.callers[caller]? = some (.done (.failed
        (step.after.balancer.noServer step.surroundings.now mode))))
      (silent : step.asked caller = [])
      (exhausted : ∀ address ∈
        (step.after.balancer.table.servers mode).toList, address ∈ failed)
  | ends (outcome : Outcome) (ending : step.Ending caller outcome)
      (moved : step.after.callers[caller]? = some (.done outcome))
      (silent : step.asked caller = [])
      (unfailed : step.failed? caller = none)

variable {step : Step} {caller : Nat} {mode : AccessMode}
  {failed : List Address}

theorem mem_asked {address : Address} :
    address ∈ step.asked caller ↔ .acquire caller address ∈ step.effects :=
  Effect.mem_asks

theorem asked_of_result {system : System} {effects : List Effect}
    (equal : step.result = (system, effects)) :
    step.asked caller = Effect.asks caller effects := by
  rw [asked, effects_of_result equal]

theorem Comes.unfailed {purpose : Purpose}
    (comes : step.Comes caller purpose) : step.failed? caller = none := by
  simp [failed?, comes.1]

/-- Nobody can be found at the place that a caller is about to take. -/
theorem Comes.absent {purpose : Purpose}
    (comes : step.Comes caller purpose) :
    step.before.callers[caller]? = none :=
  List.getElem?_eq_none (Nat.le_of_eq comes.2)

theorem unfailed_of_look {other : Nat} (event : step.event = .look other) :
    step.failed? caller = none := by
  simp [failed?, event]

/-! ## The leg of the caller who acts -/

theorem leg_of_attempt {system : System} {result : System × List Effect}
    (attempt : system.Attempt step.surroundings caller mode failed result)
    (selects : step.Selects caller mode failed)
    (there : caller < system.callers.length)
    (after : step.after = result.1)
    (asked : step.asked caller = Effect.asks caller result.2) :
    step.Leg caller := by
  cases attempt with
  | asks address selection notices listed unfailed equal =>
      subst equal
      exact .asks mode failed address selects
        (by simp [after, System.setCaller, there]) (by simpa using asked)
        (by simpa [after, System.setCaller] using listed) unfailed
  | lacks selection notices exhausted equal =>
      subst equal
      refine .lacks mode failed selects ?_ (by simpa using asked) ?_
      · simp [after, System.setCaller, there, Balancer.noServer]
      · simpa [after, System.setCaller] using exhausted

theorem leg_arrival {purpose : Purpose} (comes : step.Comes caller purpose)
    (arrival : step.Arrival purpose) : step.Leg caller := by
  have place : caller = step.before.callers.length := comes.2.symm
  cases arrival with
  | refused closed result =>
      refine .ends _ (.refused purpose comes closed) ?_
        (asked_of_result result) comes.unfailed
      simp [after_of_result result, place]
  | joins slot isOpen held result =>
      refine .waits purpose slot comes ?_ (asked_of_result result)
      simp [after_of_result result, place]
  | starts text isOpen free stale result =>
      refine .waits purpose step.before.balancer.refreshes.length comes ?_
        (asked_of_result result)
      simp [after_of_result result, place]
  | enters isOpen free fresh result =>
      cases purpose with
      | verify =>
          refine .ends .verified .verified ?_ (asked_of_result result)
            comes.unfailed
          simp [after_of_result result, System.setCaller, place]
      | acquire mode =>
          rw [← place] at result
          exact leg_of_attempt (System.attempt_cases _ _ caller mode [])
            (.enters comes isOpen free fresh) (by simp [place])
            (after_of_result result) (asked_of_result result)

theorem leg_glance (event : step.event = .look caller)
    (glance : step.Glance caller) : step.Leg caller := by
  have unfailed : step.failed? caller = none := unfailed_of_look event
  have bound {purpose : Purpose} {place : Nat}
      (waiting : step.before.callers[caller]? =
        some (.waiting purpose place)) :
      caller < step.before.callers.length :=
    (List.getElem?_eq_some_iff.mp waiting).1
  cases glance with
  | early unfinished result =>
      exact .rests (by rw [after_of_result result]) (asked_of_result result)
        unfailed
  | goesOn purpose place table waiting ended result =>
      cases purpose with
      | verify =>
          refine .ends .verified .verified ?_ (asked_of_result result)
            unfailed
          simp [after_of_result result, System.setCaller, bound waiting]
      | acquire mode =>
          exact leg_of_attempt (System.attempt_cases _ _ caller mode [])
            (.served place table event waiting ended) (bound waiting)
            (after_of_result result) (asked_of_result result)
  | fails purpose place error waiting ended result =>
      have seen : step.before.balancer.outcome? place =
          some (step.before.balancer, .error error) := by
        rw [Balancer.outcome?, ended]
      refine .ends _ (.shared purpose place _ error event waiting seen) ?_
        (asked_of_result result) unfailed
      simp [after_of_result result, System.setCaller, bound waiting]
  | notices purpose place fault waiting crashed result =>
      refine .ends _ (.shared purpose place _ (Balancer.brokenDown fault) event
        waiting (by rw [Balancer.outcome?, crashed])) ?_
        (asked_of_result result) unfailed
      simp [after_of_result result, System.setCaller, bound waiting]

theorem leg_hearing {reply : Except Error Connection}
    (event : step.event = .pooled caller reply)
    (hearing : step.Hearing caller reply) : step.Leg caller := by
  have bound {mode : AccessMode} {failed : List Address} {address : Address}
      (connecting : step.before.callers[caller]? =
        some (.connecting mode failed address)) :
      caller < step.before.callers.length :=
    (List.getElem?_eq_some_iff.mp connecting).1
  cases hearing with
  | stray reply idle result =>
      have unfailed : step.failed? caller = none := by
        unfold failed?
        split
        · split
          · rename_i connecting
            exact absurd connecting (idle _ _ _)
          · rfl
        · rfl
      exact .rests (by rw [after_of_result result]) (asked_of_result result)
        unfailed
  | connects mode failed address connection connecting result =>
      refine .ends _
        (.connects mode failed address connection event connecting) ?_
        (asked_of_result result) (by simp [failed?, event])
      simp [after_of_result result, System.setCaller, bound connecting]
  | retries mode failed address error text next connecting connectivity
      attempted result =>
      have attempt := System.attempt_cases
        ⟨{ step.before.balancer with
            table := step.before.balancer.table.forget address },
          step.before.callers⟩ step.surroundings caller mode
        (failed ++ [address])
      rw [← attempted] at attempt
      exact leg_of_attempt attempt
        (.retries failed address error event connecting connectivity)
        (bound connecting) (after_of_result result)
        (by rw [asked_of_result result]; rfl)
  | surrenders mode failed address error connecting connectivity result =>
      refine .ends _ (.surrenders mode failed address error event connecting
        connectivity) ?_ (asked_of_result result)
        (by simp [failed?, event, connecting, connectivity])
      simp [after_of_result result, System.setCaller, bound connecting]

/-! ## The legs of all callers -/

/-- Whoever does not act stays where it is. -/
theorem rests_of_other (other : step.actor? ≠ some caller) :
    step.after.callers[caller]? = step.before.callers[caller]? ∧
      step.asked caller = [] ∧ step.failed? caller = none := by
  have silent (silent : ∀ address, .acquire caller address ∉ step.effects) :
      step.asked caller = [] :=
    List.eq_nil_iff_forall_not_mem.mpr fun address member =>
      silent address (mem_asked.mp member)
  have unfailed : step.failed? caller = none := by
    unfold failed?
    split
    · rename_i acting error event
      have different : acting ≠ caller := fun same =>
        other (by simp [actor?, event, same])
      split <;> simp [different]
    · rfl
  cases step.calling caller with
  | rests same quiet => exact ⟨same, silent quiet, unfailed⟩
  | comes purpose state event new moved asks =>
      exact absurd (by simp [actor?, event, new]) other
  | moves old state event found early moved late asks =>
      rcases event with event | ⟨reply, event⟩
      · exact absurd (by simp [actor?, event]) other
      · exact absurd (by simp [actor?, event]) other

theorem leg (step : Step) (caller : Nat) : step.Leg caller := by
  by_cases acts : step.actor? = some caller
  · cases event : step.event with
    | arrive purpose =>
        simp only [actor?, event, Option.some.injEq] at acts
        exact leg_arrival ⟨event, acts⟩ (step.arrival event)
    | look acting =>
        simp only [actor?, event, Option.some.injEq] at acts
        subst acts
        exact leg_glance event (step.glance event)
    | pooled acting reply =>
        simp only [actor?, event, Option.some.injEq] at acts
        subst acts
        exact leg_hearing event (step.hearing event)
    | proceed => simp [actor?, event] at acts
    | answer answer => simp [actor?, event] at acts
    | crash fault => simp [actor?, event] at acts
    | report report => simp [actor?, event] at acts
    | close => simp [actor?, event] at acts
  · rcases rests_of_other acts with ⟨same, silent, unfailed⟩
    exact .rests same silent unfailed

end Step

end ClusterRouting
