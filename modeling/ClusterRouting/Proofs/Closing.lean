import ClusterRouting.Proofs.Requests

/-! Closing: what a balancer still does after it was closed.

Whether the balancer is closed is looked at when a caller comes, and at no
other time. Who comes later is refused at once. A call that was under way goes
on as if nothing had happened, and may still ask the pool, which was closed
with the balancer. -/

namespace ClusterRouting

namespace Balancer

def reopened (balancer : Balancer) : Balancer :=
  { balancer with closed := false }

variable (balancer : Balancer) (now : Timestamp)

theorem select_reopened (surroundings : Surroundings) (mode : AccessMode)
    (failed : List Address) :
    balancer.reopened.select surroundings mode failed =
      ((balancer.select surroundings mode failed).1.reopened,
        (balancer.select surroundings mode failed).2) :=
  rfl

theorem report_reopened (report : Report) :
    balancer.reopened.report report =
      ((balancer.report report).1.reopened, (balancer.report report).2) := by
  cases report <;> rfl

theorem conclude_reopened (place : Nat) (result : Except Error Composition) :
    balancer.reopened.conclude now place result =
      ((balancer.conclude now place result).1.reopened,
        (balancer.conclude now place result).2) := by
  cases result <;> rfl

theorem carryOn_reopened (place : Nat)
    (search : Search (Except Error Composition)) :
    balancer.reopened.carryOn now place search =
      ((balancer.carryOn now place search).1.reopened,
        (balancer.carryOn now place search).2) := by
  have table : balancer.reopened.table = balancer.table := rfl
  unfold carryOn
  rw [table]
  generalize search.advance now balancer.table = progress
  cases stop : progress.stop with
  | finish result =>
      have ended := conclude_reopened
        { balancer with table := progress.table } now place result
      simp only [reopened] at ended
      simp only [stop, reopened, ended]
  | wait request resume =>
      simp only [stop]
      rfl

theorem turn_reopened (event : Event) :
    balancer.reopened.turn now event =
      ((balancer.turn now event).1.reopened,
        (balancer.turn now event).2) := by
  -- Which refresh is carried on has nothing to do with the flag.
  have turn : balancer.reopened.turn? event = balancer.turn? event := rfl
  unfold Balancer.turn
  rw [turn]
  cases balancer.turn? event with
  | none => rfl
  | some found => exact balancer.carryOn_reopened now found.1 found.2

theorem crash_reopened (fault : String) :
    balancer.reopened.crash fault = (balancer.crash fault).reopened := by
  have underWay : balancer.reopened.underWay = balancer.underWay := rfl
  unfold crash
  rw [underWay]
  rcases balancer.underWay with _ | ⟨place, refresh⟩
  · rfl
  · cases refresh <;> rfl

theorem outcome_reopened (place : Nat) :
    balancer.reopened.outcome? place =
      (balancer.outcome? place).map fun seen =>
        (seen.1.reopened, seen.2) := by
  have refreshes : balancer.reopened.refreshes = balancer.refreshes := rfl
  unfold outcome?
  rw [refreshes]
  rcases balancer.refreshes[place]? with _ | refresh
  · rfl
  · cases refresh <;> rfl

end Balancer

namespace System

def reopened (system : System) : System :=
  { system with balancer := system.balancer.reopened }

variable (system : System) (surroundings : Surroundings) (caller : Nat)

theorem attempt_reopened (mode : AccessMode) (failed : List Address) :
    system.reopened.attempt surroundings caller mode failed =
      ((system.attempt surroundings caller mode failed).1.reopened,
        (system.attempt surroundings caller mode failed).2) := by
  have balancer : system.reopened.balancer = system.balancer.reopened := rfl
  unfold attempt
  rw [balancer, Balancer.select_reopened]
  rcases system.balancer.select surroundings mode failed with
    ⟨next, effects, _ | address⟩
  · rfl
  · rfl

theorem served_reopened (purpose : Purpose) :
    system.reopened.served surroundings caller purpose =
      ((system.served surroundings caller purpose).1.reopened,
        (system.served surroundings caller purpose).2) := by
  cases purpose with
  | verify => rfl
  | acquire mode => exact system.attempt_reopened surroundings caller mode []

theorem look_reopened :
    system.reopened.look surroundings caller =
      ((system.look surroundings caller).1.reopened,
        (system.look surroundings caller).2) := by
  have callers : system.reopened.callers = system.callers := rfl
  have balancer : system.reopened.balancer = system.balancer.reopened := rfl
  unfold look
  rw [callers, balancer]
  cases system.callers[caller]? with
  | none => rfl
  | some state =>
      cases state with
      | waiting purpose place =>
          simp only [Balancer.outcome_reopened]
          rcases system.balancer.outcome? place with _ | ⟨next, outcome⟩
          · rfl
          · cases outcome with
            | error error => rfl
            | ok table =>
                exact System.served_reopened { system with balancer := next }
                  surroundings caller purpose
      | connecting mode failed address => rfl
      | done outcome => rfl

theorem pooled_reopened (reply : Except Error Connection) :
    system.reopened.pooled surroundings caller reply =
      ((system.pooled surroundings caller reply).1.reopened,
        (system.pooled surroundings caller reply).2) := by
  have callers : system.reopened.callers = system.callers := rfl
  have balancer : system.reopened.balancer = system.balancer.reopened := rfl
  unfold pooled
  rw [callers, balancer]
  cases system.callers[caller]? with
  | none => rfl
  | some state =>
      cases state with
      | waiting purpose place => rfl
      | done outcome => rfl
      | connecting mode failed address =>
          cases reply with
          | ok connection => rfl
          | error error =>
              cases connectivity : error.isConnectivity with
              | false => simp only [connectivity]; rfl
              | true =>
                  have next := attempt_reopened
                    { system with balancer :=
                      (system.balancer.report (.unreachable address)).1 }
                    surroundings caller mode (failed ++ [address])
                  simp only [reopened] at next
                  simp only [connectivity, if_true, Balancer.report_reopened,
                    reopened, next]

theorem changed_reopened (change : Balancer × List Effect) :
    system.reopened.changed (change.1.reopened, change.2) =
      ((system.changed change).1.reopened, (system.changed change).2) :=
  rfl

end System

def Event.heedsClosing : Event → Bool
  | .arrive _ | .close => true
  | .look _ | .pooled _ _ | .proceed | .answer _ | .crash _ | .report _ =>
      false

/-- Nothing but the coming of a caller, and another closing, differs in a
system that is closed. -/
theorem System.step_reopened (system : System) (surroundings : Surroundings)
    {event : Event} (heedless : event.heedsClosing = false) :
    system.reopened.step surroundings event =
      ((system.step surroundings event).1.reopened,
        (system.step surroundings event).2) := by
  have balancer : system.reopened.balancer = system.balancer.reopened := rfl
  cases event with
  | arrive purpose => cases heedless
  | close => cases heedless
  | look caller => exact system.look_reopened surroundings caller
  | pooled caller reply =>
      exact system.pooled_reopened surroundings caller reply
  | proceed =>
      simp only [step, balancer, Balancer.proceed_eq, Balancer.turn_reopened]
      exact system.changed_reopened _
  | answer answer =>
      simp only [step, balancer, Balancer.receive_eq, Balancer.turn_reopened]
      exact system.changed_reopened _
  | crash fault =>
      simp only [step, balancer, Balancer.crash_reopened]
      exact system.changed_reopened (system.balancer.crash fault, [])
  | report report =>
      simp only [step, balancer, Balancer.report_reopened]
      exact system.changed_reopened _

/-! ## Closed for good -/

theorem Balancer.carryOn_closed (balancer : Balancer) (now : Timestamp)
    (place : Nat) (search : Search (Except Error Composition)) :
    (balancer.carryOn now place search).1.closed = balancer.closed := by
  rcases balancer.carryOn_cases now place search with
    ⟨result, _, equal⟩ | ⟨request, resume, _, equal⟩
  · rw [equal]
    cases result <;> rfl
  · rw [equal]

theorem System.Advance.closed {system : System} {surroundings : Surroundings}
    {caller : Nat} {result : System × List Effect}
    (advance : system.Advance surroundings caller result) :
    result.1.balancer.closed = system.balancer.closed := by
  rcases advance.moved with ⟨selection, state, moved, _⟩
  rw [moved]
  rfl

namespace Step

variable {step : Step}

/-- Who comes to a closed balancer is refused, and changes nothing. -/
theorem refused_of_closed {caller : Nat} {purpose : Purpose}
    (comes : step.Comes caller purpose)
    (closed : step.before.balancer.closed = true) :
    step.result =
      (⟨step.before.balancer, step.before.callers ++
        [.done (.failed Balancer.closedError)]⟩, []) := by
  cases step.arrival comes.1 with
  | refused _ result => exact result
  | joins place isOpen held result => simp [closed] at isOpen
  | starts text isOpen free stale result => simp [closed] at isOpen
  | enters isOpen free fresh result => simp [closed] at isOpen

/-- A balancer that is closed stays so. -/
theorem closed_after (closed : step.before.balancer.closed = true) :
    step.after.balancer.closed = true := by
  cases step.course with
  | arrives purpose event arrival =>
      rw [after_of_result (refused_of_closed ⟨event, rfl⟩ closed)]
      exact closed
  | looks caller event glance =>
      cases glance with
      | early unfinished result => rw [after_of_result result, closed]
      | goesOn purpose place table waiting ended result =>
          have advance := System.advance_served step.before step.surroundings
            caller purpose
          rw [← result] at advance
          exact advance.closed.trans closed
      | fails purpose place error waiting ended result =>
          rw [after_of_result result]
          exact closed
      | notices purpose place fault waiting crashed result =>
          rw [after_of_result result]
          exact closed
  | hears caller reply event hearing =>
      cases hearing with
      | stray reply idle result => rw [after_of_result result, closed]
      | connects mode failed address connection connecting result =>
          rw [after_of_result result]
          exact closed
      | retries mode failed address error text next connecting connectivity
          attempted result =>
          have advance := System.advance_attempt
            ⟨{ step.before.balancer with
                table := step.before.balancer.table.forget address },
              step.before.callers⟩ step.surroundings caller mode
            (failed ++ [address])
          rw [← attempted] at advance
          rw [after_of_result result]
          exact advance.closed.trans closed
      | surrenders mode failed address error connecting connectivity result =>
          rw [after_of_result result]
          exact closed
  | turns place search turn result =>
      rw [after_of_result result]
      exact (Balancer.carryOn_closed _ _ _ _).trans closed
  | crashes place refresh fault event held found unfinished result =>
      rw [after_of_result result]
      exact closed
  | reports report event result =>
      rw [after_of_result result]
      cases report <;> exact closed
  | closes event result =>
      rw [after_of_result result]
      rcases step.before.balancer.close_cases with same | closes
      · simp [same, closed]
      · simp [closes]
  | idle event turn result => rw [after_of_result result, closed]

theorem closed_of_close (event : step.event = .close) :
    step.after.balancer.closed = true := by
  have result : step.result =
      step.before.changed step.before.balancer.close :=
    step.result_of_event event
  rw [after_of_result result]
  cases closed : step.before.balancer.closed <;>
    simp [Balancer.close, closed]

end Step

namespace System

/-- Who comes to a closed balancer has come to its end, and never asks the
pool. -/
theorem refused_of_mem_trace {system : System}
    {inputs : List (Surroundings × Event)} {arrival : Step}
    (member : arrival ∈ system.trace inputs) {caller : Nat} {purpose : Purpose}
    (comes : arrival.Comes caller purpose)
    (closed : arrival.before.balancer.closed = true) :
    (system.run inputs).callers[caller]? =
        some (.done (.failed Balancer.closedError)) ∧
      ∀ step ∈ system.trace inputs, ∀ address,
        .acquire caller address ∉ step.effects := by
  have refused : arrival.after.callers[caller]? =
      some (.done (.failed Balancer.closedError)) := by
    rw [Step.after_of_result (Step.refused_of_closed comes closed), ← comes.2]
    simp
  constructor
  · exact done_of_mem_trace member refused
  · intro step stepMember address
    have before : arrival.before.stage caller = 0 := by
      simp [stage, comes.absent]
    have after : arrival.after.stage caller = 3 := stage_of_getElem? refused
    exact Step.silent_of_stage member (by omega) (by omega) stepMember address

end System

/-- What happens from a closing on. -/
structure Closing (earlier later : List Step) (last : System) : Prop where
  stays : ∀ step ∈ later, step.before.balancer.closed = true
  refuses : ∀ step ∈ later, ∀ caller purpose, step.Comes caller purpose →
    step.result =
        (⟨step.before.balancer, step.before.callers ++
          [.done (.failed Balancer.closedError)]⟩, []) ∧
      last.callers[caller]? = some (.done (.failed Balancer.closedError)) ∧
        ∀ other ∈ later, ∀ address, .acquire caller address ∉ other.effects
  belongs : ∀ step ∈ later, ∀ caller address,
    .acquire caller address ∈ step.effects →
      ∃ arrival ∈ earlier, ∃ mode, arrival.Comes caller (.acquire mode) ∧
        arrival.before.balancer.closed = false
  /-- The calls that are under way, and the refresh, go on as in a system that
  is open. -/
  unaffected : ∀ step ∈ later, step.event.heedsClosing = false →
    step.before.reopened.step step.surroundings step.event =
      (step.after.reopened, step.effects)

namespace System

variable (discovery : Discovery) (provider : Provider) (table : Table)
  (selection : Selection) (inputs : List (Surroundings × Event))
  {earlier later : List Step} {closing : Step}

/-- Closing refuses all who come later, and nobody else, in every run. -/
theorem closing_run
    (split : (opened discovery provider table selection).trace inputs =
      earlier ++ closing :: later)
    (closes : closing.event = .close) :
    Closing earlier later
      ((opened discovery provider table selection).run inputs) := by
  have unused : (opened discovery provider table selection).Unused :=
    ⟨rfl, rfl⟩
  have within {step : Step} (member : step ∈ later) :
      step ∈ (opened discovery provider table selection).trace inputs := by
    rw [split]
    exact List.mem_append_right _ (List.mem_cons_of_mem _ member)
  have stays : ∀ step ∈ later, step.before.balancer.closed = true := by
    rcases trace_split_cons split with ⟨_, _, second, _, _, _, rfl⟩
    intro step member
    exact @trace_preserves (fun system => system.balancer.closed = true)
      (fun _ closed => Step.closed_after closed) _
      (Step.closed_of_close closes) _ _ member
  refine ⟨stays, ?_, ?_, ?_⟩
  · intro step member caller purpose comes
    rcases refused_of_mem_trace (within member) comes (stays step member) with
      ⟨told, silent⟩
    exact ⟨Step.refused_of_closed comes (stays step member), told,
      fun other otherMember => silent other (within otherMember)⟩
  · intro step member caller address asked
    rcases Step.selects_of_asked asked with ⟨mode, failed, selects, _⟩
    rcases List.append_of_mem (within member) with ⟨before, after, cut⟩
    rcases ((unused.record cut).of_selects selects).1 with
      ⟨arrival, arrived, comes⟩
    have present :
        arrival ∈ (opened discovery provider table selection).trace inputs := by
      rw [cut]
      simp only [List.mem_append, List.mem_cons] at arrived ⊢
      grind
    -- The caller came to an open balancer, or it would never have asked.
    have isOpen : arrival.before.balancer.closed = false := by
      apply Bool.eq_false_iff.mpr
      intro closed
      exact (refused_of_mem_trace present comes closed).2 step (within member)
        address asked
    refine ⟨arrival, ?_, mode, comes, isOpen⟩
    rw [split, List.mem_append, List.mem_cons] at present
    rcases present with early | same | late
    · exact early
    · subst same
      rw [comes.1] at closes
      cases closes
    · rw [stays arrival late] at isOpen
      cases isOpen
  · intro step member heedless
    exact step.before.step_reopened step.surroundings heedless

end System

namespace Handover

/-- What happens after a closing while a call waits for a refresh: the refresh
succeeds, the call goes on, and another one comes. -/
def afterwards : List (Surroundings × Event) :=
  [answered [] [leader], (surroundings, .look 0),
    (surroundings, .arrive (.acquire .write)),
    (surroundings, .pooled 0 (.ok ⟨leader, none, 0⟩))]

def closing : Step :=
  ⟨opened.run asked, surroundings, .close⟩

theorem split_closing :
    opened.trace (asked ++ (surroundings, .close) :: afterwards) =
      opened.trace asked ++ closing :: closing.after.trace afterwards :=
  System.trace_append opened asked _

end Handover

theorem System.closing_run_handover :
    Closing (Handover.opened.trace Handover.asked)
      (Handover.closing.after.trace Handover.afterwards)
      (Handover.opened.run (Handover.asked ++
        (Handover.surroundings, .close) :: Handover.afterwards)) :=
  System.closing_run _ _ _ _ _ Handover.split_closing rfl

/-- A call that waits for a refresh when the balancer is closed asks the pool
later. -/
theorem System.acquires_after_close :
    ¬ ∀ (discovery : Discovery) (provider : Provider) (table : Table)
        (selection : Selection) (inputs : List (Surroundings × Event))
        (earlier later : List Step) (closing : Step),
      (opened discovery provider table selection).trace inputs =
          earlier ++ closing :: later →
        closing.event = .close → ∀ step ∈ later,
          (∀ caller address, .acquire caller address ∉ step.effects) ∧
            ∀ caller mode failed, step.Selects caller mode failed →
              step.after.callers[caller]? =
                some (.done (.failed Balancer.closedError)) := by
  intro claim
  let later := Handover.closing.after.trace Handover.afterwards
  have requests : Step.requests 0 later = [Handover.leader] := by
    decide +kernel
  have member : Handover.leader ∈ Step.requests 0 later := by
    rw [requests]
    exact List.mem_singleton_self _
  rcases List.mem_flatMap.mp member with ⟨step, present, asked⟩
  have silent := (claim Handover.discovery .external
    (.ofRouters [Handover.router]) Handover.selection _ _ _ _
    Handover.split_closing rfl step present).1
  exact silent 0 Handover.leader (Step.mem_asked.mp asked)

end ClusterRouting
