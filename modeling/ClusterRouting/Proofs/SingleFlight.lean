import ClusterRouting.Proofs.Slot

/-! Single flight: all callers share the refreshes of one routing table.

Whoever needs a table while a refresh is under way waits for that refresh, and
gets the one outcome that it comes to. -/

namespace ClusterRouting

namespace Step

def started (step : Step) : Nat :=
  step.after.balancer.refreshes.length - step.before.balancer.refreshes.length

def actor? (step : Step) : Option Nat :=
  match step.event with
  | .arrive _ => some step.before.callers.length
  | .look caller | .pooled caller _ => some caller
  | .proceed | .answer _ | .crash _ | .report _ | .close => none

def startedBy (caller : Nat) : List Step → Nat
  | [] => 0
  | step :: rest =>
      (if step.actor? = some caller then step.started else 0) +
        startedBy caller rest

def Looks (step : Step) (caller : Nat) (purpose : Purpose) (place : Nat)
    (refresh : Refresh) : Prop :=
  step.event = .look caller ∧
    step.before.callers[caller]? = some (.waiting purpose place) ∧
      step.before.balancer.refreshes[place]? = some refresh

/-- What a caller does with the outcome of its refresh: it goes on with the
table, or it comes to its end with the failure and asks for nothing. -/
def Obeys (step : Step) (caller : Nat) (purpose : Purpose) :
    Except Error Table → Prop
  | .ok _ =>
      (step.after, step.effects) =
        step.before.served step.surroundings caller purpose
  | .error error =>
      step.after.callers[caller]? = some (.done (.failed error)) ∧
        step.effects = []

structure Starts (step : Step) (purpose : Purpose) : Prop where
  arrives : step.event = .arrive purpose
  isOpen : step.before.balancer.closed = false
  free : step.before.balancer.slot = none
  stale : step.before.balancer.table.isStaleFor step.surroundings.now
    purpose.mode = true
  started : step.started = 1
  slot : step.after.balancer.slot =
    some step.before.balancer.refreshes.length
  callers : step.after.callers = step.before.callers ++
    [.waiting purpose step.before.balancer.refreshes.length]

end Step

/-- What holds of the steps of a run and of the system at its end if refreshes
are shared. -/
structure SingleFlight (steps : List Step) (last : System) : Prop where
  orderly : last.Orderly
  alone : ∀ (place : Nat) (refresh : Refresh),
    last.balancer.refreshes[place]? = some refresh →
      refresh.isUnfinished = true → last.balancer.slot = some place
  starts : ∀ step ∈ steps, step.started ≠ 0 → ∃ purpose, step.Starts purpose
  startsOnce : ∀ caller, Step.startedBy caller steps ≤ 1
  joins : ∀ step ∈ steps, ∀ purpose place,
    step.event = .arrive purpose → step.before.balancer.closed = false →
      step.before.balancer.slot = some place →
        step.started = 0 ∧ step.after.callers =
          step.before.callers ++ [.waiting purpose place]
  /-- The outcome that a caller gets is the one that the refresh has for
  good. -/
  receives : ∀ step ∈ steps, ∀ caller purpose place refresh,
    step.Looks caller purpose place refresh →
      refresh.isUnfinished = false →
        ∃ balancer outcome,
          step.before.balancer.outcome? place = some (balancer, outcome) ∧
            last.balancer.refreshes[place]? = some (.ended outcome) ∧
              step.Obeys caller purpose outcome
  /-- Whoever gets a failure has not asked the pool and never will. -/
  silent : ∀ step ∈ steps, ∀ caller purpose place refresh error,
    step.Looks caller purpose place refresh →
      refresh.isUnfinished = false →
        last.balancer.refreshes[place]? = some (.ended (.error error)) →
          ∀ other ∈ steps, ∀ address,
            .acquire caller address ∉ other.effects
  waits : ∀ step ∈ steps, ∀ caller purpose place,
    step.before.callers[caller]? = some (.waiting purpose place) →
      step.after.callers[caller]? = some (.waiting purpose place) ∨
        ∃ refresh, step.Looks caller purpose place refresh ∧
          refresh.isUnfinished = false
  settles : ∀ step ∈ steps, ∀ place progress result,
    step.Settles place progress result →
      step.before.balancer.slot = some place ∧
        step.after.balancer.slot = none ∧
          step.after.balancer.table = progress.table.settle result ∧
            last.balancer.refreshes[place]? =
              some (.ended (result.map fun _ => step.after.balancer.table))
  outcomes : ∀ (place : Nat) (outcome : Except Error Table),
    last.balancer.refreshes[place]? = some (.ended outcome) →
      ∃ step ∈ steps,
        (∃ progress result, step.Settles place progress result ∧
          outcome = result.map fun _ => step.after.balancer.table) ∨
        (∃ caller purpose fault,
          step.Looks caller purpose place (.crashed fault) ∧
            outcome = .error (Balancer.brokenDown fault))
  notices : ∀ step ∈ steps, ∀ caller purpose place fault,
    step.Looks caller purpose place (.crashed fault) →
      step.before.balancer.slot = some place ∧
        step.after.balancer.slot = none ∧
          step.after.balancer.table = step.before.balancer.table ∧
            last.balancer.refreshes[place]? =
              some (.ended (.error (Balancer.brokenDown fault)))
  leaves : ∀ step ∈ steps, ∀ place,
    step.before.balancer.slot = some place →
      step.after.balancer.slot = some place ∨
        (∃ progress result, step.Settles place progress result) ∨
          ∃ caller purpose fault,
            step.Looks caller purpose place (.crashed fault)

namespace Step

variable {step : Step}

/-! ## Who starts a refresh -/

theorem starts_of_started (started : step.started ≠ 0) :
    ∃ purpose, step.Starts purpose := by
  have unchanged (same : step.after.balancer.refreshes.length =
      step.before.balancer.refreshes.length) : step.started = 0 := by
    simp [Step.started, same]
  cases step.flight with
  | stays refreshes slot =>
      exact absurd (unchanged (by rw [refreshes])) started
  | starts purpose search event isOpen free stale refreshes slot callers =>
      have one : step.started = 1 := by simp [Step.started, refreshes]
      exact ⟨purpose, event, isOpen, free, stale, one, slot, callers⟩
  | goesOn place old new held found unfinished unended refreshes slot =>
      exact absurd (unchanged (by simp [refreshes])) started
  | finishes place old progress result held found unfinished settles
      table refreshes slot =>
      exact absurd (unchanged (by simp [refreshes])) started
  | noticed caller purpose place fault event waiting crashed table refreshes
      slot =>
      exact absurd (unchanged (by simp [refreshes])) started

/-- Whoever comes while the slot is taken waits for the refresh there. -/
theorem joined {purpose : Purpose} {place : Nat}
    (event : step.event = .arrive purpose)
    (isOpen : step.before.balancer.closed = false)
    (held : step.before.balancer.slot = some place) :
    step.started = 0 ∧ step.after.callers =
      step.before.callers ++ [.waiting purpose place] := by
  cases step.arrival event with
  | refused closed result =>
      rw [isOpen] at closed
      cases closed
  | joins there isOpen found result =>
      rw [held] at found
      cases found
      rw [started, after_of_result result]
      exact ⟨Nat.sub_self _, rfl⟩
  | starts text isOpen free stale result =>
      rw [held] at free
      cases free
  | enters isOpen free fresh result =>
      rw [held] at free
      cases free

/-! ## How a refresh leaves the slot -/

theorem noticed (orderly : step.before.Orderly) {caller : Nat}
    {purpose : Purpose} {place : Nat} {fault : String}
    (looks : step.Looks caller purpose place (.crashed fault)) :
    step.before.balancer.slot = some place ∧
      step.after.balancer.slot = none ∧
        step.after.balancer.table = step.before.balancer.table ∧
          step.after.balancer.refreshes[place]? =
            some (.ended (.error (Balancer.brokenDown fault))) := by
  rcases looks with ⟨event, waiting, crashed⟩
  have bound := (List.getElem?_eq_some_iff.mp crashed).1
  refine ⟨orderly.held crashed rfl, ?_⟩
  cases step.glance event with
  | early unfinished result =>
      have := unfinished purpose place _ waiting crashed
      cases this
  | goesOn other there table found ended result => grind
  | fails other there error found ended result => grind
  | notices other there text found broken result =>
      have after := after_of_result result
      cases waiting.symm.trans found
      cases crashed.symm.trans broken
      rw [after]
      exact ⟨rfl, rfl, by simp [System.setCaller, bound]⟩

theorem leaves (orderly : step.before.Orderly) {place : Nat}
    (held : step.before.balancer.slot = some place) :
    step.after.balancer.slot = some place ∨
      (∃ progress result, step.Settles place progress result) ∨
        ∃ caller purpose fault,
          step.Looks caller purpose place (.crashed fault) := by
  have same {other : Nat}
      (there : step.before.balancer.slot = some other) : other = place :=
    Option.some.inj (there.symm.trans held)
  cases step.flight with
  | stays refreshes slot => exact .inl (slot.trans held)
  | starts purpose search event isOpen free stale refreshes slot callers =>
      rw [free] at held
      cases held
  | goesOn other old new there found unfinished unended refreshes slot =>
      exact .inl (same there ▸ slot)
  | finishes other old progress result there found unfinished settles
      table refreshes slot =>
      exact .inr (.inl ⟨progress, result, same there ▸ settles⟩)
  | noticed caller purpose other fault event waiting crashed table refreshes
      slot =>
      have equal := same (orderly.held crashed rfl)
      exact .inr (.inr
        ⟨caller, purpose, fault, event, equal ▸ waiting, equal ▸ crashed⟩)

/-! ## Where an outcome comes from -/

theorem outcome_of_ended {place : Nat} {outcome : Except Error Table}
    (ended : step.after.balancer.refreshes[place]? =
      some (.ended outcome)) :
    step.before.balancer.refreshes[place]? = some (.ended outcome) ∨
      (∃ progress result, step.Settles place progress result ∧
        outcome = result.map fun _ => step.after.balancer.table) ∨
      (∃ caller purpose fault,
        step.Looks caller purpose place (.crashed fault) ∧
          outcome = .error (Balancer.brokenDown fault)) := by
  cases step.flight with
  | stays refreshes slot =>
      rw [refreshes] at ended
      exact .inl ended
  | starts purpose search event isOpen free stale refreshes slot callers =>
      grind
  | goesOn other old new held found unfinished unended refreshes slot =>
      grind [Refresh.hasEnded]
  | finishes other old progress result held found unfinished settles
      table refreshes slot =>
      by_cases same : other = place
      · subst same
        have bound := (List.getElem?_eq_some_iff.mp found).1
        rw [refreshes, List.getElem?_set_self bound] at ended
        cases ended
        exact .inr (.inl ⟨progress, result, settles, rfl⟩)
      · rw [refreshes, List.getElem?_set_ne same] at ended
        exact .inl ended
  | noticed caller purpose other fault event waiting crashed table refreshes
      slot =>
      by_cases same : other = place
      · subst same
        have bound := (List.getElem?_eq_some_iff.mp crashed).1
        rw [refreshes, List.getElem?_set_self bound] at ended
        cases ended
        exact .inr (.inr
          ⟨caller, purpose, fault, ⟨event, waiting, crashed⟩, rfl⟩)
      · rw [refreshes, List.getElem?_set_ne same] at ended
        exact .inl ended

/-! ## What those get who wait -/

theorem received {caller : Nat} {purpose : Purpose} {place : Nat}
    {refresh : Refresh} (looks : step.Looks caller purpose place refresh)
    (finished : refresh.isUnfinished = false) :
    ∃ balancer outcome,
      step.before.balancer.outcome? place = some (balancer, outcome) ∧
        step.after.balancer.refreshes[place]? = some (.ended outcome) ∧
          step.Obeys caller purpose outcome := by
  rcases looks with ⟨event, waiting, found⟩
  have bound := (List.getElem?_eq_some_iff.mp waiting).1
  cases step.glance event with
  | early unfinished result =>
      rw [unfinished purpose place refresh waiting found] at finished
      cases finished
  | goesOn other there table seen ended result =>
      rw [waiting] at seen
      cases seen
      exact ⟨_, .ok table, by rw [Balancer.outcome?, ended],
        ended_after ended, result⟩
  | fails other there error seen ended result =>
      rw [waiting] at seen
      cases seen
      refine ⟨_, .error error, by rw [Balancer.outcome?, ended],
        ended_after ended, ?_, effects_of_result result⟩
      simp [after_of_result result, System.setCaller, bound]
  | notices other there fault seen crashed result =>
      rw [waiting] at seen
      cases seen
      have inside := (List.getElem?_eq_some_iff.mp crashed).1
      refine ⟨_, .error (Balancer.brokenDown fault),
        by rw [Balancer.outcome?, crashed], ?_, ?_, effects_of_result result⟩
      · simp [after_of_result result, System.setCaller, inside]
      · simp [after_of_result result, System.setCaller, bound]

theorem waits {caller : Nat} {purpose : Purpose} {place : Nat}
    (joined : place < step.before.balancer.refreshes.length)
    (waiting : step.before.callers[caller]? = some (.waiting purpose place)) :
    step.after.callers[caller]? = some (.waiting purpose place) ∨
      ∃ refresh, step.Looks caller purpose place refresh ∧
        refresh.isUnfinished = false := by
  cases step.calling caller with
  | rests same silent => exact .inl (same.trans waiting)
  | comes arrived state event new moved asks =>
      rw [List.getElem?_eq_none (Nat.le_of_eq new.symm)] at waiting
      cases waiting
  | moves old state event found early moved late asks =>
      rcases event with looks | ⟨reply, hears⟩
      · have there := List.getElem?_eq_getElem joined
        cases unfinished :
            step.before.balancer.refreshes[place].isUnfinished with
        | false => exact .inr ⟨_, ⟨looks, waiting, there⟩, unfinished⟩
        | true =>
            cases step.glance looks with
            | early unfinished result =>
                exact .inl (after_of_result result ▸ waiting)
            | goesOn other held table seen ended result =>
                grind [Refresh.isUnfinished]
            | fails other held error seen ended result =>
                grind [Refresh.isUnfinished]
            | notices other held fault seen crashed result =>
                grind [Refresh.isUnfinished]
      · cases step.hearing hears with
        | stray reply idle result =>
            exact .inl (after_of_result result ▸ waiting)
        | connects mode failed address connection connecting result =>
            rw [waiting] at connecting
            cases connecting
        | retries mode failed address error text next connecting =>
            rw [waiting] at connecting
            cases connecting
        | surrenders mode failed address error connecting =>
            rw [waiting] at connecting
            cases connecting

/-! ## How many refreshes a caller starts -/

theorem callers_length_le (step : Step) :
    step.before.callers.length ≤ step.after.callers.length := by
  apply Nat.le_of_not_lt
  intro less
  have stages := step.stage_le step.after.callers.length
  have gone : step.after.stage step.after.callers.length = 0 := by
    simp [System.stage]
  have there : ∃ state, step.before.callers[step.after.callers.length]? =
      some state := ⟨_, List.getElem?_eq_getElem less⟩
  rcases there with ⟨state, found⟩
  rw [System.stage_of_getElem? found, gone] at stages
  cases state <;> simp [Caller.stage] at stages

end Step

namespace System

/-- A caller starts a refresh only in the step in which it comes. -/
theorem startedBy_of_arrived {system : System} {caller : Nat}
    (arrived : caller < system.callers.length)
    (inputs : List (Surroundings × Event)) :
    Step.startedBy caller (system.trace inputs) = 0 := by
  induction inputs generalizing system with
  | nil => rfl
  | cons input rest induction =>
      let step : Step := ⟨system, input.1, input.2⟩
      have later : Step.startedBy caller (step.after.trace rest) = 0 :=
        induction (Nat.lt_of_lt_of_le arrived step.callers_length_le)
      have none : step.actor? = some caller → step.started = 0 := by
        intro acts
        apply Decidable.byContradiction
        intro started
        rcases Step.starts_of_started started with ⟨purpose, starts⟩
        simp only [Step.actor?, starts.arrives, Option.some.injEq] at acts
        exact absurd arrived (by simp [← acts, step])
      change Step.startedBy caller (step :: step.after.trace rest) = 0
      rw [Step.startedBy, later]
      split
      · exact none ‹_›
      · rfl

theorem startedBy_le_one (system : System) (caller : Nat)
    (inputs : List (Surroundings × Event)) :
    Step.startedBy caller (system.trace inputs) ≤ 1 := by
  induction inputs generalizing system with
  | nil => exact Nat.zero_le 1
  | cons input rest induction =>
      let step : Step := ⟨system, input.1, input.2⟩
      change Step.startedBy caller (step :: step.after.trace rest) ≤ 1
      rw [Step.startedBy]
      split
      · rename_i acts
        by_cases started : step.started = 0
        · rw [started, Nat.zero_add]
          exact induction step.after
        · rcases Step.starts_of_started started with ⟨purpose, starts⟩
          simp only [Step.actor?, starts.arrives, Option.some.injEq] at acts
          have arrived : caller < step.after.callers.length := by
            simp [starts.callers, ← acts]
          have one := starts.started
          have none := startedBy_of_arrived arrived rest
          omega
      · rw [Nat.zero_add]
        exact induction step.after

theorem outcome_of_trace {system : System}
    {inputs : List (Surroundings × Event)} {place : Nat}
    {outcome : Except Error Table}
    (ended : (system.run inputs).balancer.refreshes[place]? =
      some (.ended outcome)) :
    system.balancer.refreshes[place]? = some (.ended outcome) ∨
      ∃ step ∈ system.trace inputs,
        (∃ progress result, step.Settles place progress result ∧
          outcome = result.map fun _ => step.after.balancer.table) ∨
        (∃ caller purpose fault,
          step.Looks caller purpose place (.crashed fault) ∧
            outcome = .error (Balancer.brokenDown fault)) := by
  induction inputs generalizing system with
  | nil => exact .inl ended
  | cons input rest induction =>
      rcases induction ended with before | ⟨step, member, origin⟩
      · rcases Step.outcome_of_ended before with before | origin
        · exact .inl before
        · exact .inr ⟨_, List.mem_cons_self, origin⟩
      · exact .inr ⟨step, List.mem_cons_of_mem _ member, origin⟩

/-- Single flight in every run of a balancer from its opening on: for any
routers, provider and seeds, and for any order of callers, answers, failures
and reports. -/
theorem singleFlight_run (discovery : Discovery) (provider : Provider)
    (table : Table) (selection : Selection)
    (inputs : List (Surroundings × Event)) :
    let system := System.opened discovery provider table selection
    SingleFlight (system.trace inputs) (system.run inputs) := by
  intro system
  have opened : system.Orderly :=
    orderly_opened discovery provider table selection
  have orderly {step : Step} (member : step ∈ system.trace inputs) :
      step.before.Orderly :=
    trace_preserves (fun _ => Step.orderly_after) opened member
  have last : (system.run inputs).Orderly := orderly_run opened inputs
  exact {
    orderly := last
    alone := fun place refresh found unfinished =>
      last.held found (Refresh.hasEnded_of_unfinished unfinished)
    starts := fun step member started => Step.starts_of_started started
    startsOnce := fun caller => system.startedBy_le_one caller inputs
    joins := fun step member purpose place event isOpen held =>
      Step.joined event isOpen held
    receives := by
      intro step member caller purpose place refresh looks finished
      rcases Step.received looks finished with
        ⟨balancer, outcome, seen, ended, obeys⟩
      exact ⟨balancer, outcome, seen, ended_of_mem_trace member ended, obeys⟩
    silent := by
      intro step member caller purpose place refresh error looks finished
        failed other otherMember address
      rcases Step.received looks finished with
        ⟨_, outcome, _, ended, obeys⟩
      have same := (ended_of_mem_trace member ended).symm.trans failed
      cases same
      exact Step.silent_of_failed member looks.2.1 obeys.1 otherMember address
    waits := by
      intro step member caller purpose place waiting
      exact Step.waits ((orderly member).joined caller purpose place waiting)
        waiting
    settles := by
      intro step member place progress result settles
      rcases Step.settled settles with ⟨slot, empty, table, ended⟩
      exact ⟨slot, empty, table, ended_of_mem_trace member ended⟩
    outcomes := by
      intro place outcome ended
      rcases outcome_of_trace ended with before | origin
      · cases before
      · exact origin
    notices := by
      intro step member caller purpose place fault looks
      rcases Step.noticed (orderly member) looks with
        ⟨slot, empty, table, ended⟩
      exact ⟨slot, empty, table, ended_of_mem_trace member ended⟩
    leaves := fun step member place held =>
      Step.leaves (orderly member) held }

end System

end ClusterRouting
