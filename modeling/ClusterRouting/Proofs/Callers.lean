import ClusterRouting.Proofs.Course
import ClusterRouting.Proofs.Picks

/-! Callers: what a step does to each of them.

A caller only ever moves on, from waiting for a refresh over waiting for the
pool to its end, and asks the pool for a connection only when it comes to wait
for that connection. -/

namespace ClusterRouting

namespace Caller

def stage : Caller → Nat
  | .waiting _ _ => 1
  | .connecting _ _ _ => 2
  | .done _ => 3

def Asks (state : Caller) (table : Table) (address : Address) : Prop :=
  ∃ mode failed, state = .connecting mode failed address ∧
    address ∈ (table.servers mode).toList ∧ address ∉ failed

theorem Asks.stage {state : Caller} {table : Table} {address : Address}
    (asks : state.Asks table address) : state.stage = 2 := by
  rcases asks with ⟨mode, failed, rfl, _⟩
  rfl

end Caller

namespace System

def stage (system : System) (caller : Nat) : Nat :=
  (system.callers[caller]?).elim 0 Caller.stage

theorem stage_of_getElem? {system : System} {caller : Nat} {state : Caller}
    (found : system.callers[caller]? = some state) :
    system.stage caller = state.stage := by
  simp [stage, found]

variable {system : System} {surroundings : Surroundings} {caller : Nat}
  {result : System × List Effect}

/-- A caller for whom the table is fresh enough takes its next place and leaves
all others alone. -/
theorem Advance.moved (advance : system.Advance surroundings caller result) :
    ∃ selection state,
      result.1 = system.setCaller { system.balancer with selection } caller
        state ∧
      2 ≤ state.stage ∧
      ∀ other address, .acquire other address ∈ result.2 →
        other = caller ∧ state.Asks result.1.balancer.table address := by
  cases advance with
  | verified equal =>
      subst equal
      exact ⟨system.balancer.selection, _, rfl, by decide, by simp⟩
  | asks mode failed address selection notices picked equal =>
      subst equal
      have asks : Caller.Asks (.connecting mode failed address)
          system.balancer.table address :=
        ⟨mode, failed, rfl, Balancer.mem_of_select picked⟩
      refine ⟨selection, _, rfl, Nat.le_refl 2, ?_⟩
      intro other server member
      simp only [List.mem_append, List.mem_map, List.mem_singleton,
        reduceCtorEq, and_false, exists_false, false_or,
        Effect.acquire.injEq] at member
      rcases member with ⟨rfl, rfl⟩
      exact ⟨rfl, asks⟩
  | lacks mode failed selection notices picked equal =>
      subst equal
      exact ⟨selection, _, rfl, (by decide : 2 ≤ 3), by simp⟩

end System

namespace Step

inductive Calling (step : Step) (caller : Nat) : Prop
  | rests
      (same : step.after.callers[caller]? = step.before.callers[caller]?)
      (silent : ∀ address, .acquire caller address ∉ step.effects)
  | comes (purpose : Purpose) (state : Caller)
      (event : step.event = .arrive purpose)
      (new : caller = step.before.callers.length)
      (moved : step.after.callers[caller]? = some state)
      (asks : ∀ address, .acquire caller address ∈ step.effects →
        state.Asks step.after.balancer.table address)
  | moves (old state : Caller)
      (event : step.event = .look caller ∨
        ∃ reply, step.event = .pooled caller reply)
      (found : step.before.callers[caller]? = some old)
      (early : old.stage ≤ 2)
      (moved : step.after.callers[caller]? = some state)
      (late : 2 ≤ state.stage)
      (asks : ∀ address, .acquire caller address ∈ step.effects →
        state.Asks step.after.balancer.table address)

variable {step : Step}

theorem after_of_result {system : System} {effects : List Effect}
    (equal : step.result = (system, effects)) : step.after = system :=
  congrArg Prod.fst equal

theorem effects_of_result {system : System} {effects : List Effect}
    (equal : step.result = (system, effects)) : step.effects = effects :=
  congrArg Prod.snd equal

theorem calling_of_callers
    (same : step.after.callers = step.before.callers)
    (silent : ∀ caller address, .acquire caller address ∉ step.effects)
    (caller : Nat) : step.Calling caller :=
  .rests (by rw [same]) (silent caller)

theorem calling_of_append {purpose : Purpose} {state : Caller}
    (event : step.event = .arrive purpose)
    (callers : step.after.callers = step.before.callers ++ [state])
    (asks : ∀ other address, .acquire other address ∈ step.effects →
      other = step.before.callers.length ∧
        state.Asks step.after.balancer.table address)
    (caller : Nat) : step.Calling caller := by
  by_cases new : caller = step.before.callers.length
  · exact .comes purpose state event new (by simp [callers, new])
      fun address member => (asks caller address member).2
  · exact .rests (by grind)
      fun address member => new (asks caller address member).1

/-- Whoever finds the routing table fresh does not come to wait for a
refresh. -/
theorem enters {purpose : Purpose}
    (result : step.result = System.served
      ⟨step.before.balancer, step.before.callers ++ [.done .verified]⟩
      step.surroundings step.before.callers.length purpose) :
    ∃ state, step.after.callers = step.before.callers ++ [state] ∧
      2 ≤ state.stage ∧
        ∀ other address, .acquire other address ∈ step.effects →
          other = step.before.callers.length ∧
            state.Asks step.after.balancer.table address := by
  rcases (System.advance_served _ _ _ purpose).moved with
    ⟨selection, state, moved, late, asks⟩
  rw [← result] at moved asks
  have callers : step.after.callers =
      (step.before.callers ++ [Caller.done .verified]).set
        step.before.callers.length state := congrArg (·.callers) moved
  exact ⟨state, by simpa using callers, late, asks⟩

theorem calling_of_set {acting : Nat} {old state : Caller}
    (event : step.event = .look acting ∨
      ∃ reply, step.event = .pooled acting reply)
    (found : step.before.callers[acting]? = some old)
    (early : old.stage ≤ 2) (late : 2 ≤ state.stage)
    (callers : step.after.callers = step.before.callers.set acting state)
    (asks : ∀ other address, .acquire other address ∈ step.effects →
      other = acting ∧ state.Asks step.after.balancer.table address)
    (caller : Nat) : step.Calling caller := by
  by_cases acts : caller = acting
  · subst acts
    have bound : caller < step.before.callers.length :=
      (List.getElem?_eq_some_iff.mp found).1
    exact .moves old state event found early (by simp [callers, bound]) late
      fun address member => (asks caller address member).2
  · exact .rests (by simp [callers, List.getElem?_set_ne (Ne.symm acts)])
      fun address member => acts (asks caller address member).1

/-- A caller for whom the table is fresh enough, as a part of a step. -/
theorem calling_of_advance {system : System} {acting : Nat} {old : Caller}
    {result : System × List Effect} (extra : List Effect)
    (advance : system.Advance step.surroundings acting result)
    (event : step.event = .look acting ∨
      ∃ reply, step.event = .pooled acting reply)
    (same : system.callers = step.before.callers)
    (found : step.before.callers[acting]? = some old)
    (early : old.stage ≤ 2)
    (equal : step.result = (result.1, extra ++ result.2))
    (silent : ∀ other address, .acquire other address ∉ extra)
    (caller : Nat) : step.Calling caller := by
  rcases advance.moved with ⟨selection, state, moved, late, asks⟩
  refine calling_of_set event found early late ?_ ?_ caller
  · rw [after_of_result equal, moved, ← same]
    rfl
  · intro other address member
    rw [effects_of_result equal] at member
    rcases List.mem_append.mp member with before | asked
    · exact absurd before (silent other address)
    · rw [after_of_result equal]
      exact asks other address asked

theorem calling_of_done {balancer : Balancer} {acting : Nat} {old : Caller}
    {outcome : Outcome}
    (event : step.event = .look acting ∨
      ∃ reply, step.event = .pooled acting reply)
    (found : step.before.callers[acting]? = some old)
    (early : old.stage ≤ 2)
    (equal : step.result =
      (step.before.setCaller balancer acting (.done outcome), []))
    (caller : Nat) : step.Calling caller := by
  have late : 2 ≤ (Caller.done outcome).stage := Nat.le_succ 2
  exact calling_of_set event found early late (congrArg (·.1.callers) equal)
    (by simp [effects_of_result equal]) caller

theorem calling_arrival {purpose : Purpose}
    (event : step.event = .arrive purpose) (arrival : step.Arrival purpose)
    (caller : Nat) : step.Calling caller := by
  cases arrival with
  | refused closed result =>
      exact calling_of_append event (congrArg (·.1.callers) result)
        (by simp [effects_of_result result]) caller
  | joins place isOpen held result =>
      exact calling_of_append event (congrArg (·.1.callers) result)
        (by simp [effects_of_result result]) caller
  | starts text isOpen free stale result =>
      exact calling_of_append event (congrArg (·.1.callers) result)
        (by simp [effects_of_result result]) caller
  | enters isOpen free fresh result =>
      rcases enters result with ⟨state, callers, _, asks⟩
      exact calling_of_append event callers asks caller

theorem calling_glance {acting : Nat} (event : step.event = .look acting)
    (glance : step.Glance acting) (caller : Nat) : step.Calling caller := by
  cases glance with
  | early unfinished result =>
      exact calling_of_callers (congrArg (·.1.callers) result)
        (by simp [effects_of_result result]) caller
  | goesOn purpose place table waiting ended result =>
      exact calling_of_advance [] (System.advance_served _ _ acting purpose)
        (.inl event) rfl waiting (by decide : 1 ≤ 2) result (by simp) caller
  | fails purpose place error waiting ended result =>
      exact calling_of_done (.inl event) waiting (by decide : 1 ≤ 2) result
        caller
  | notices purpose place fault waiting crashed result =>
      exact calling_of_done (.inl event) waiting (by decide : 1 ≤ 2) result
        caller

theorem calling_hearing {acting : Nat} {reply : Except Error Connection}
    (event : step.event = .pooled acting reply)
    (hearing : step.Hearing acting reply) (caller : Nat) :
    step.Calling caller := by
  cases hearing with
  | stray reply idle result =>
      exact calling_of_callers (congrArg (·.1.callers) result)
        (by simp [effects_of_result result]) caller
  | connects mode failed address connection connecting result =>
      exact calling_of_done (.inr ⟨_, event⟩) connecting (Nat.le_refl 2)
        result caller
  | retries mode failed address error text next connecting connectivity
      attempted result =>
      have advance := System.advance_attempt
        ⟨{ step.before.balancer with
            table := step.before.balancer.table.forget address },
          step.before.callers⟩ step.surroundings acting mode
        (failed ++ [address])
      rw [← attempted] at advance
      exact calling_of_advance [.note ⟨.error, text⟩, .purge address] advance
        (.inr ⟨_, event⟩) rfl connecting (Nat.le_refl 2) result (by simp)
        caller
  | surrenders mode failed address error connecting connectivity result =>
      exact calling_of_done (.inr ⟨_, event⟩) connecting (Nat.le_refl 2)
        result caller

theorem calling (step : Step) (caller : Nat) : step.Calling caller := by
  cases step.course with
  | arrives purpose event arrival =>
      exact calling_arrival event arrival caller
  | looks acting event glance => exact calling_glance event glance caller
  | hears acting reply event hearing =>
      exact calling_hearing event hearing caller
  | turns place search turn result =>
      refine calling_of_callers (congrArg (·.1.callers) result) ?_ caller
      intro other address
      rw [effects_of_result result]
      exact Balancer.carryOn_silent _ _ _ _ other address
  | crashes place refresh fault event held found unfinished result =>
      exact calling_of_callers (congrArg (·.1.callers) result)
        (by simp [effects_of_result result]) caller
  | reports report event result =>
      refine calling_of_callers (congrArg (·.1.callers) result) ?_ caller
      rw [effects_of_result result]
      cases report <;> simp [Balancer.report]
  | closes event result =>
      refine calling_of_callers (congrArg (·.1.callers) result) ?_ caller
      rw [effects_of_result result]
      rcases step.before.balancer.close_cases with same | closed
      · simp [same]
      · simp [closed]
  | idle event turn result =>
      exact calling_of_callers (congrArg (·.1.callers) result)
        (by simp [effects_of_result result]) caller

/-! ## Stages -/

theorem stage_le (step : Step) (caller : Nat) :
    step.before.stage caller ≤ step.after.stage caller := by
  cases step.calling caller with
  | rests same silent => exact Nat.le_of_eq (by simp [System.stage, same])
  | comes purpose state event new moved asks =>
      simp [System.stage, new]
  | moves old state event found early moved late asks =>
      rw [System.stage_of_getElem? found, System.stage_of_getElem? moved]
      exact Nat.le_trans early late

/-- Whoever asks the pool asks for a server that is in the table then. -/
theorem asks_of_acquire (step : Step) {caller : Nat} {address : Address}
    (member : .acquire caller address ∈ step.effects) :
    ∃ state, step.after.callers[caller]? = some state ∧
      state.Asks step.after.balancer.table address := by
  cases step.calling caller with
  | rests same silent => exact absurd member (silent address)
  | comes purpose state event new moved asks =>
      exact ⟨state, moved, asks address member⟩
  | moves old state event found early moved late asks =>
      exact ⟨state, moved, asks address member⟩

theorem stage_of_acquire (step : Step) {caller : Nat} {address : Address}
    (member : .acquire caller address ∈ step.effects) :
    step.after.stage caller = 2 := by
  rcases step.asks_of_acquire member with ⟨state, found, asks⟩
  rw [System.stage_of_getElem? found]
  exact asks.stage

/-- A caller who comes to its end without waiting for the pool never asks the
pool. -/
theorem silent_of_stage {system : System}
    {inputs : List (Surroundings × Event)} {step : Step}
    (member : step ∈ system.trace inputs) {caller : Nat}
    (early : step.before.stage caller < 2)
    (late : 2 < step.after.stage caller)
    {other : Step} (otherMember : other ∈ system.trace inputs)
    (address : Address) : .acquire caller address ∉ other.effects := by
  -- Stages never fall; a caller is at two right after it asks the pool, while
  -- this step takes it past two at once.
  intro asked
  have otherStage := other.stage_of_acquire asked
  have ordered := System.ordered_of_mem_trace
    (fun first second => first.stage caller ≤ second.stage caller)
    (fun _ => Nat.le_refl _) Nat.le_trans (fun step => step.stage_le caller)
    member otherMember
  rcases ordered with equal | later | earlier
  · subst equal
    omega
  · have := other.stage_le caller
    omega
  · omega

/-- A caller who fails while it waits for a refresh never asks the pool. -/
theorem silent_of_failed {system : System}
    {inputs : List (Surroundings × Event)} {step : Step}
    (member : step ∈ system.trace inputs) {caller : Nat} {purpose : Purpose}
    {place : Nat} {error : Error}
    (waiting : step.before.callers[caller]? = some (.waiting purpose place))
    (failed : step.after.callers[caller]? = some (.done (.failed error)))
    {other : Step} (otherMember : other ∈ system.trace inputs)
    (address : Address) : .acquire caller address ∉ other.effects := by
  have before : step.before.stage caller = 1 :=
    System.stage_of_getElem? waiting
  have after : step.after.stage caller = 3 := System.stage_of_getElem? failed
  exact silent_of_stage member (by omega) (by omega) otherMember address

/-- A caller at its end stays there. -/
theorem done_after (step : Step) {caller : Nat} {outcome : Outcome}
    (done : step.before.callers[caller]? = some (.done outcome)) :
    step.after.callers[caller]? = some (.done outcome) := by
  cases step.calling caller with
  | rests same silent => exact same.trans done
  | comes purpose state event new moved asks =>
      rw [List.getElem?_eq_none (Nat.le_of_eq new.symm)] at done
      cases done
  | moves old state event found early moved late asks =>
      rw [done] at found
      cases found
      exact absurd early (by decide : ¬ 3 ≤ 2)

end Step

/-- A caller who has come to its end is there at the end of the run. -/
theorem System.done_of_mem_trace {system : System}
    {inputs : List (Surroundings × Event)} {step : Step}
    (member : step ∈ system.trace inputs) {caller : Nat} {outcome : Outcome}
    (done : step.after.callers[caller]? = some (.done outcome)) :
    (system.run inputs).callers[caller]? = some (.done outcome) :=
  (related_of_mem_trace
    (fun first second => first.callers[caller]? = some (.done outcome) →
      second.callers[caller]? = some (.done outcome))
    (fun _ done => done) (fun first second done => second (first done))
    (fun step done => step.done_after done) member).2 done

end ClusterRouting
