import ClusterRouting.Proofs.Flight

/-! Slots: which refresh the slot of a balancer holds.

The slot holds a refresh exactly until its outcome appears, so that no caller
starts another one beside it, and an outcome never changes afterwards. -/

namespace ClusterRouting

/-- The slot holds exactly the refresh without an outcome, and callers wait for
refreshes that have been started. -/
structure System.Orderly (system : System) : Prop where
  slot_iff : ∀ place, system.balancer.slot = some place ↔
    ∃ refresh, system.balancer.refreshes[place]? = some refresh ∧
      refresh.hasEnded = false
  joined : ∀ (caller : Nat) (purpose : Purpose) (place : Nat),
    system.callers[caller]? = some (.waiting purpose place) →
      place < system.balancer.refreshes.length

namespace Refresh

theorem hasEnded_of_unfinished {refresh : Refresh}
    (unfinished : refresh.isUnfinished = true) : refresh.hasEnded = false := by
  cases refresh with
  | ready search => rfl
  | waiting request resume => rfl
  | ended outcome => cases unfinished
  | crashed fault => cases unfinished

end Refresh

namespace System.Orderly

variable {system : System} (orderly : system.Orderly)
include orderly

theorem held {place : Nat} {refresh : Refresh}
    (found : system.balancer.refreshes[place]? = some refresh)
    (unended : refresh.hasEnded = false) :
    system.balancer.slot = some place :=
  (orderly.slot_iff place).mpr ⟨refresh, found, unended⟩

/-- Another refresh than the one in the slot has ended. -/
theorem ended_of_ne {place other : Nat} {refresh : Refresh}
    (held : system.balancer.slot = some place) (different : other ≠ place)
    (found : system.balancer.refreshes[other]? = some refresh) :
    refresh.hasEnded = true := by
  cases ended : refresh.hasEnded with
  | true => rfl
  | false =>
      have equal := (orderly.held found ended).symm.trans held
      exact absurd (Option.some.inj equal) different

end System.Orderly

theorem System.orderly_opened (discovery : Discovery) (provider : Provider)
    (table : Table) (selection : Selection) :
    (System.opened discovery provider table selection).Orderly where
  slot_iff := by simp [System.opened]
  joined := by simp [System.opened]

namespace Step

variable {step : Step}

/-- The slot after a refresh has got a new state: it keeps the refresh as long
as there is no outcome. -/
theorem slot_iff_of_set (orderly : step.before.Orderly) {place : Nat}
    {old new : Refresh}
    (held : step.before.balancer.slot = some place)
    (found : step.before.balancer.refreshes[place]? = some old)
    (refreshes : step.after.balancer.refreshes =
      step.before.balancer.refreshes.set place new)
    (slot : step.after.balancer.slot =
      if new.hasEnded then none else some place) (other : Nat) :
    step.after.balancer.slot = some other ↔
      ∃ refresh, step.after.balancer.refreshes[other]? = some refresh ∧
        refresh.hasEnded = false := by
  have bound : place < step.before.balancer.refreshes.length :=
    (List.getElem?_eq_some_iff.mp found).1
  by_cases same : place = other
  · subst same
    have now : step.after.balancer.refreshes[place]? = some new := by
      rw [refreshes, List.getElem?_set_self bound]
    rw [slot, now]
    cases ended : new.hasEnded <;> simp [ended]
  · have kept : step.after.balancer.refreshes[other]? =
        step.before.balancer.refreshes[other]? := by
      rw [refreshes, List.getElem?_set_ne same]
    rw [slot, kept]
    constructor
    · intro equal
      split at equal
      · cases equal
      · exact absurd (Option.some.inj equal) same
    · rintro ⟨refresh, present, unended⟩
      have ended := orderly.ended_of_ne held (Ne.symm same) present
      rw [ended] at unended
      cases unended

theorem slot_iff_after (orderly : step.before.Orderly) (place : Nat) :
    step.after.balancer.slot = some place ↔
      ∃ refresh, step.after.balancer.refreshes[place]? = some refresh ∧
        refresh.hasEnded = false := by
  cases step.flight with
  | stays refreshes slot =>
      rw [refreshes, slot]
      exact orderly.slot_iff place
  | starts purpose search event isOpen free stale refreshes slot callers =>
      -- The slot was empty, so the new refresh is the only one without outcome.
      have allEnded := orderly.slot_iff place
      rw [free] at allEnded
      rw [refreshes, slot]
      by_cases new : place = step.before.balancer.refreshes.length
      · subst new
        simp [Refresh.hasEnded]
      · grind
  | goesOn held old new slot found unfinished unended refreshes after =>
      exact slot_iff_of_set orderly slot found refreshes
        (by simp [after, unended]) place
  | finishes held old progress result slot found unfinished settles
      table refreshes after =>
      exact slot_iff_of_set orderly slot found refreshes
        (by simp [after, Refresh.hasEnded]) place
  | noticed caller purpose held fault event waiting crashed table refreshes
      after =>
      exact slot_iff_of_set orderly (orderly.held crashed rfl) crashed
        refreshes (by simp [after, Refresh.hasEnded]) place

theorem refreshes_length_le (step : Step) :
    step.before.balancer.refreshes.length ≤
      step.after.balancer.refreshes.length := by
  cases step.flight <;> simp_all

/-- A caller who comes and waits has found its refresh in the slot or started
it. -/
theorem joined_of_arrive {arrived : Purpose}
    (event : step.event = .arrive arrived) {purpose : Purpose} {place : Nat}
    (waiting : step.after.callers[step.before.callers.length]? =
      some (.waiting purpose place)) :
    step.before.balancer.slot = some place ∨
      place < step.after.balancer.refreshes.length := by
  cases step.arrival event with
  | refused closed result =>
      simp [after_of_result result] at waiting
  | joins held isOpen slot result =>
      rw [after_of_result result] at waiting
      simp only [List.getElem?_concat_length, Option.some.injEq,
        Caller.waiting.injEq] at waiting
      exact .inl (waiting.2 ▸ slot)
  | starts text isOpen free stale result =>
      rw [after_of_result result] at waiting ⊢
      simp only [List.getElem?_concat_length, Option.some.injEq,
        Caller.waiting.injEq] at waiting
      exact .inr (by simp [Balancer.start, ← waiting.2])
  | enters isOpen free fresh result =>
      rcases enters result with ⟨state, callers, late, _⟩
      have reached : state = .waiting purpose place := by
        simpa [callers] using waiting
      rw [reached] at late
      exact absurd late (by decide : ¬ 2 ≤ 1)

theorem orderly_after (orderly : step.before.Orderly) :
    step.after.Orderly where
  slot_iff := slot_iff_after orderly
  joined := by
    intro caller purpose place waiting
    have grown := step.refreshes_length_le
    cases step.calling caller with
    | rests same silent =>
        rw [same] at waiting
        exact Nat.lt_of_lt_of_le (orderly.joined caller purpose place waiting)
          grown
    | comes arrived state event new moved asks =>
        subst new
        rcases joined_of_arrive event waiting with held | bound
        · rcases (orderly.slot_iff place).mp held with ⟨refresh, found, _⟩
          have := (List.getElem?_eq_some_iff.mp found).1
          omega
        · exact bound
    | moves old state event found early moved late asks =>
        rw [waiting] at moved
        cases moved
        exact absurd late (by decide : ¬ 2 ≤ 1)

theorem ended_after {place : Nat} {outcome : Except Error Table}
    (ended : step.before.balancer.refreshes[place]? =
      some (.ended outcome)) :
    step.after.balancer.refreshes[place]? = some (.ended outcome) := by
  -- Only the refresh with the changed state has no outcome before the step.
  have kept {changed : Nat} {old new : Refresh}
      (found : step.before.balancer.refreshes[changed]? = some old)
      (unended : old.hasEnded = false)
      (refreshes : step.after.balancer.refreshes =
        step.before.balancer.refreshes.set changed new) :
      step.after.balancer.refreshes[place]? = some (.ended outcome) := by
    have different : changed ≠ place := by
      intro same
      subst same
      rw [found, Option.some.injEq] at ended
      subst ended
      cases unended
    rw [refreshes, List.getElem?_set_ne different]
    exact ended
  cases step.flight with
  | stays refreshes slot =>
      rw [refreshes]
      exact ended
  | starts purpose search event isOpen free stale refreshes slot callers =>
      rw [refreshes, List.getElem?_append_left
        (List.getElem?_eq_some_iff.mp ended).1]
      exact ended
  | goesOn changed old new held found unfinished unended refreshes slot =>
      exact kept found (Refresh.hasEnded_of_unfinished unfinished) refreshes
  | finishes changed old progress result held found unfinished settles
      table refreshes slot =>
      exact kept found (Refresh.hasEnded_of_unfinished unfinished) refreshes
  | noticed caller purpose changed fault event waiting crashed table refreshes
      slot =>
      exact kept crashed rfl refreshes

end Step

namespace System

theorem orderly_run {system : System} (orderly : system.Orderly)
    (inputs : List (Surroundings × Event)) : (system.run inputs).Orderly :=
  run_preserves (fun _ => Step.orderly_after) orderly inputs

/-- The outcome of a refresh stays what it is to the end of the run. -/
theorem ended_of_mem_trace {system : System}
    {inputs : List (Surroundings × Event)} {step : Step}
    (member : step ∈ system.trace inputs) {place : Nat}
    {outcome : Except Error Table}
    (ended : step.after.balancer.refreshes[place]? = some (.ended outcome)) :
    (system.run inputs).balancer.refreshes[place]? =
      some (.ended outcome) :=
  (related_of_mem_trace
    (fun first second => ∀ place outcome,
      first.balancer.refreshes[place]? = some (Refresh.ended outcome) →
        second.balancer.refreshes[place]? = some (Refresh.ended outcome))
    (fun _ _ _ ended => ended)
    (fun first second place outcome ended =>
      second place outcome (first place outcome ended))
    (fun _ _ _ ended => Step.ended_after ended) member).2 place outcome ended

end System

end ClusterRouting
