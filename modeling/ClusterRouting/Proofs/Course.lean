import ClusterRouting.Proofs.Operations
import ClusterRouting.Proofs.Run

/-! Courses: everything that one step of a system can come to.

A step is told apart once, here. What holds of every step is then shown by one
case for each course, without another look at how a step is computed. -/

namespace ClusterRouting

namespace System

inductive Advance (system : System) (surroundings : Surroundings)
    (caller : Nat) (result : System × List Effect) : Prop
  | verified
      (equal : result =
        (system.setCaller system.balancer caller (.done .verified), []))
  | asks (mode : AccessMode) (failed : List Address) (address : Address)
      (selection : Selection) (notices : List Notice)
      (picked : system.balancer.select surroundings mode failed =
        ({ system.balancer with selection }, notices.map .note, some address))
      (equal : result =
        (system.setCaller { system.balancer with selection } caller
          (.connecting mode failed address),
          notices.map .note ++ [.acquire caller address]))
  | lacks (mode : AccessMode) (failed : List Address)
      (selection : Selection) (notices : List Notice)
      (picked : system.balancer.select surroundings mode failed =
        ({ system.balancer with selection }, notices.map .note, none))
      (equal : result =
        (system.setCaller { system.balancer with selection } caller
          (.done (.failed (Balancer.noServer
            { system.balancer with selection } surroundings.now mode))),
          notices.map .note))

theorem advance_attempt (system : System) (surroundings : Surroundings)
    (caller : Nat) (mode : AccessMode) (failed : List Address) :
    system.Advance surroundings caller
      (system.attempt surroundings caller mode failed) := by
  let pick := system.balancer.selection.pick surroundings mode
    (system.balancer.candidates mode failed)
  cases found : pick.address? with
  | some address =>
      have picked : system.balancer.select surroundings mode failed =
          ({ system.balancer with selection := pick.selection },
            pick.notices.map .note, some address) := by
        rw [← found]
        rfl
      exact .asks mode failed address pick.selection pick.notices picked
        (by simp only [attempt, picked])
  | none =>
      have picked : system.balancer.select surroundings mode failed =
          ({ system.balancer with selection := pick.selection },
            pick.notices.map .note, none) := by
        rw [← found]
        rfl
      exact .lacks mode failed pick.selection pick.notices picked
        (by simp only [attempt, picked])

theorem advance_served (system : System) (surroundings : Surroundings)
    (caller : Nat) (purpose : Purpose) :
    system.Advance surroundings caller
      (system.served surroundings caller purpose) := by
  cases purpose with
  | verify => exact .verified rfl
  | acquire mode => exact system.advance_attempt surroundings caller mode []

/-- A caller for whom the table is fresh enough keeps all connections of the
pool. -/
theorem Advance.purged {system : System} {surroundings : Surroundings}
    {caller : Nat} {result : System × List Effect}
    (advance : system.Advance surroundings caller result) :
    Effect.purges result.2 = [] := by
  cases advance with
  | verified equal =>
      rw [equal]
      rfl
  | asks mode failed address selection notices picked equal => simp [equal]
  | lacks mode failed selection notices picked equal => simp [equal]

end System

namespace Step

def result (step : Step) : System × List Effect :=
  (step.after, step.effects)

inductive Arrival (step : Step) (purpose : Purpose) : Prop
  | refused (closed : step.before.balancer.closed = true)
      (result : step.result =
        (⟨step.before.balancer, step.before.callers ++
          [.done (.failed Balancer.closedError)]⟩, []))
  | joins (place : Nat) (isOpen : step.before.balancer.closed = false)
      (held : step.before.balancer.slot = some place)
      (result : step.result =
        (⟨step.before.balancer,
          step.before.callers ++ [.waiting purpose place]⟩, []))
  | starts (text : String) (isOpen : step.before.balancer.closed = false)
      (free : step.before.balancer.slot = none)
      (stale : step.before.balancer.table.isStaleFor step.surroundings.now
        purpose.mode = true)
      (result : step.result =
        (⟨step.before.balancer.start, step.before.callers ++
          [.waiting purpose step.before.balancer.refreshes.length]⟩,
          [.note ⟨.info, text⟩]))
  | enters (isOpen : step.before.balancer.closed = false)
      (free : step.before.balancer.slot = none)
      (fresh : step.before.balancer.table.isStaleFor step.surroundings.now
        purpose.mode = false)
      (result : step.result =
        System.served ⟨step.before.balancer,
          step.before.callers ++ [.done .verified]⟩
          step.surroundings step.before.callers.length purpose)

inductive Glance (step : Step) (caller : Nat) : Prop
  | early
      (unfinished : ∀ purpose place refresh,
        step.before.callers[caller]? = some (.waiting purpose place) →
          step.before.balancer.refreshes[place]? = some refresh →
            refresh.isUnfinished = true)
      (result : step.result = (step.before, []))
  | goesOn (purpose : Purpose) (place : Nat) (table : Table)
      (waiting : step.before.callers[caller]? = some (.waiting purpose place))
      (ended : step.before.balancer.refreshes[place]? =
        some (.ended (.ok table)))
      (result : step.result =
        step.before.served step.surroundings caller purpose)
  | fails (purpose : Purpose) (place : Nat) (error : Error)
      (waiting : step.before.callers[caller]? = some (.waiting purpose place))
      (ended : step.before.balancer.refreshes[place]? =
        some (.ended (.error error)))
      (result : step.result =
        (step.before.setCaller step.before.balancer caller
          (.done (.failed error)), []))
  /-- The caller is the first to notice that its refresh broke down. -/
  | notices (purpose : Purpose) (place : Nat) (fault : String)
      (waiting : step.before.callers[caller]? = some (.waiting purpose place))
      (crashed : step.before.balancer.refreshes[place]? =
        some (.crashed fault))
      (result : step.result =
        (step.before.setCaller
          { step.before.balancer with
            refreshes := step.before.balancer.refreshes.set place
              (.ended (.error (Balancer.brokenDown fault)))
            slot := none } caller
          (.done (.failed (Balancer.brokenDown fault))), []))

inductive Hearing (step : Step) (caller : Nat) :
    Except Error Connection → Prop
  | stray (reply : Except Error Connection)
      (idle : ∀ mode failed address, step.before.callers[caller]? ≠
        some (.connecting mode failed address))
      (result : step.result = (step.before, [])) : Hearing step caller reply
  | connects (mode : AccessMode) (failed : List Address) (address : Address)
      (connection : Connection)
      (connecting : step.before.callers[caller]? =
        some (.connecting mode failed address))
      (result : step.result =
        (step.before.setCaller step.before.balancer caller
          (.done (.connected ⟨connection, mode⟩)), [])) :
      Hearing step caller (.ok connection)
  | retries (mode : AccessMode) (failed : List Address) (address : Address)
      (error : Error) (text : String) (next : System × List Effect)
      (connecting : step.before.callers[caller]? =
        some (.connecting mode failed address))
      (connectivity : error.isConnectivity = true)
      (attempted : next = System.attempt
        ⟨{ step.before.balancer with
            table := step.before.balancer.table.forget address },
          step.before.callers⟩ step.surroundings caller mode
        (failed ++ [address]))
      (result : step.result =
        (next.1, .note ⟨.error, text⟩ :: .purge address :: next.2)) :
      Hearing step caller (.error error)
  | surrenders (mode : AccessMode) (failed : List Address)
      (address : Address) (error : Error)
      (connecting : step.before.callers[caller]? =
        some (.connecting mode failed address))
      (connectivity : error.isConnectivity = false)
      (result : step.result =
        (step.before.setCaller step.before.balancer caller
          (.done (.failed error)), [])) :
      Hearing step caller (.error error)

inductive Course (step : Step) : Prop
  | arrives (purpose : Purpose) (event : step.event = .arrive purpose)
      (arrival : step.Arrival purpose)
  | looks (caller : Nat) (event : step.event = .look caller)
      (glance : step.Glance caller)
  | hears (caller : Nat) (reply : Except Error Connection)
      (event : step.event = .pooled caller reply)
      (hearing : step.Hearing caller reply)
  | turns (place : Nat) (search : Search (Except Error Composition))
      (turn : step.before.balancer.turn? step.event = some (place, search))
      (result : step.result =
        step.before.changed
          (step.before.balancer.carryOn step.surroundings.now place search))
  | crashes (place : Nat) (refresh : Refresh) (fault : String)
      (event : step.event = .crash fault)
      (held : step.before.balancer.slot = some place)
      (found : step.before.balancer.refreshes[place]? = some refresh)
      (unfinished : refresh.isUnfinished = true)
      (result : step.result =
        ({ step.before with balancer :=
          { step.before.balancer with
            refreshes := step.before.balancer.refreshes.set place
              (.crashed fault) } }, []))
  | reports (report : Report) (event : step.event = .report report)
      (result : step.result =
        step.before.changed (step.before.balancer.report report))
  | closes (event : step.event = .close)
      (result : step.result =
        step.before.changed step.before.balancer.close)
  | idle
      (event : step.event = .proceed ∨
        (∃ answer, step.event = .answer answer) ∨
          ∃ fault, step.event = .crash fault)
      (turn : step.before.balancer.turn? step.event = none)
      (result : step.result = (step.before, []))

theorem result_of_event (step : Step) {event : Event}
    (equal : step.event = event) :
    step.result = step.before.step step.surroundings event := by
  rw [← equal]
  rfl

theorem arrival (step : Step) {purpose : Purpose}
    (event : step.event = .arrive purpose) : step.Arrival purpose := by
  have result : step.result =
      step.before.arrive step.surroundings purpose :=
    step.result_of_event event
  unfold System.arrive at result
  cases closed : step.before.balancer.closed with
  | true => exact .refused closed (by simpa [closed] using result)
  | false =>
      simp only [closed, Bool.false_eq_true, if_false, Balancer.join] at result
      cases slot : step.before.balancer.slot with
      | some place =>
          rw [slot] at result
          exact .joins place closed slot result
      | none =>
          rw [slot] at result
          cases stale : step.before.balancer.table.isStaleFor
              step.surroundings.now purpose.mode with
          | true =>
              simp only [stale, if_true] at result
              exact .starts _ closed slot stale result
          | false =>
              simp only [stale, Bool.false_eq_true, if_false,
                List.nil_append] at result
              exact .enters closed slot stale result

theorem glance (step : Step) {caller : Nat}
    (event : step.event = .look caller) : step.Glance caller := by
  have result : step.result = step.before.look step.surroundings caller :=
    step.result_of_event event
  unfold System.look Balancer.outcome? at result
  cases waiting : step.before.callers[caller]? with
  | none => exact .early (by simp [waiting]) (by simpa [waiting] using result)
  | some state =>
      cases state with
      | connecting mode failed address =>
          exact .early (by simp [waiting]) (by simpa [waiting] using result)
      | done outcome =>
          exact .early (by simp [waiting]) (by simpa [waiting] using result)
      | waiting purpose place =>
          rw [waiting] at result
          cases found : step.before.balancer.refreshes[place]? with
          | none =>
              exact .early (by grind)
                (by simpa [found] using result)
          | some refresh =>
              cases refresh with
              | ready search =>
                  exact .early (by grind [Refresh.isUnfinished])
                    (by simpa [found] using result)
              | waiting request resume =>
                  exact .early (by grind [Refresh.isUnfinished])
                    (by simpa [found] using result)
              | crashed fault =>
                  exact .notices purpose place fault waiting found
                    (by simpa [found] using result)
              | ended outcome =>
                  cases outcome with
                  | ok table =>
                      exact .goesOn purpose place table waiting found
                        (by simpa [found] using result)
                  | error error =>
                      exact .fails purpose place error waiting found
                        (by simpa [found] using result)

theorem hearing (step : Step) {caller : Nat}
    {reply : Except Error Connection}
    (event : step.event = .pooled caller reply) :
    step.Hearing caller reply := by
  have result : step.result =
      step.before.pooled step.surroundings caller reply :=
    step.result_of_event event
  unfold System.pooled at result
  cases found : step.before.callers[caller]? with
  | none =>
      exact .stray reply (by simp [found]) (by simpa [found] using result)
  | some state =>
      cases state with
      | waiting purpose place =>
          exact .stray reply (by simp [found]) (by simpa [found] using result)
      | done outcome =>
          exact .stray reply (by simp [found]) (by simpa [found] using result)
      | connecting mode failed address =>
          rw [found] at result
          cases reply with
          | ok connection =>
              exact .connects mode failed address connection found result
          | error error =>
              cases connectivity : error.isConnectivity with
              | true =>
                  simp only [connectivity, if_true] at result
                  exact .retries mode failed address error _ _ found
                    connectivity rfl result
              | false =>
                  simp only [connectivity, Bool.false_eq_true,
                    if_false] at result
                  exact .surrenders mode failed address error found
                    connectivity result

theorem result_of_turn (step : Step)
    (event : step.event = .proceed ∨ ∃ answer, step.event = .answer answer) :
    step.result = step.before.changed
      (step.before.balancer.turn step.surroundings.now step.event) := by
  rcases event with event | ⟨answer, event⟩
  · rw [event, ← Balancer.proceed_eq]
    exact step.result_of_event event
  · rw [event, ← Balancer.receive_eq]
    exact step.result_of_event event

/-- Whatever carries a refresh on does nothing else. -/
theorem result_of_carryOn (step : Step) {place : Nat}
    {search : Search (Except Error Composition)}
    (turn : step.before.balancer.turn? step.event = some (place, search)) :
    step.result = step.before.changed
      (step.before.balancer.carryOn step.surroundings.now place search) := by
  have event : step.event = .proceed ∨
      ∃ answer, step.event = .answer answer := by
    cases event : step.event with
    | proceed => exact .inl rfl
    | answer answer => exact .inr ⟨answer, rfl⟩
    | arrive purpose => rw [event] at turn; cases turn
    | look caller => rw [event] at turn; cases turn
    | pooled caller reply => rw [event] at turn; cases turn
    | crash fault => rw [event] at turn; cases turn
    | report report => rw [event] at turn; cases turn
    | close => rw [event] at turn; cases turn
  rw [step.result_of_turn event, Balancer.turn, turn]

theorem course_of_turn (step : Step)
    (event : step.event = .proceed ∨ ∃ answer, step.event = .answer answer) :
    step.Course := by
  have result := step.result_of_turn event
  unfold Balancer.turn at result
  cases turn : step.before.balancer.turn? step.event with
  | some found =>
      rw [turn] at result
      exact .turns found.1 found.2 turn result
  | none =>
      rw [turn] at result
      exact .idle (event.imp_right .inl) turn result

theorem course_crash (step : Step) {fault : String}
    (event : step.event = .crash fault) : step.Course := by
  have result : step.result =
      step.before.changed (step.before.balancer.crash fault, []) :=
    step.result_of_event event
  unfold Balancer.crash at result
  split at result
  · rename_i found
    have parts := Balancer.underWay_eq_some_iff.mp found
    exact .crashes _ _ fault event parts.1 parts.2 rfl result
  · rename_i found
    have parts := Balancer.underWay_eq_some_iff.mp found
    exact .crashes _ _ fault event parts.1 parts.2 rfl result
  · exact .idle (.inr (.inr ⟨fault, event⟩)) (by rw [event]; rfl) result

theorem course (step : Step) : step.Course := by
  cases event : step.event with
  | arrive purpose => exact .arrives purpose event (step.arrival event)
  | look caller => exact .looks caller event (step.glance event)
  | pooled caller reply =>
      exact .hears caller reply event (step.hearing event)
  | proceed => exact step.course_of_turn (.inl event)
  | answer answer => exact step.course_of_turn (.inr ⟨answer, event⟩)
  | crash fault => exact step.course_crash event
  | report report =>
      exact .reports report event (step.result_of_event event)
  | close => exact .closes event (step.result_of_event event)

end Step

end ClusterRouting
