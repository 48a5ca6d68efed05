import ClusterRouting.Proofs.Accounts
import ClusterRouting.Proofs.Failures
import ClusterRouting.Proofs.Legs
import ClusterRouting.Proofs.Purges

/-! Requests: what a call asks of the pool while others use the same table.

The table may lose servers, get them back or be replaced between any two
requests of a call. What the call has asked for, and which servers have failed
it, is read off the steps of the run, and not off the state of the caller. -/

namespace ClusterRouting

namespace Account

def ofTable (table : Table) : Account :=
  ⟨⟨table.expires, table.readers, table.writers, table.routers⟩, []⟩

theorem describes_ofTable (table : Table) :
    (ofTable table).Describes table where
  expires := rfl
  members := by
    intro role address
    cases role <;> simp [ofTable, Table.members, Composition.members]

end Account

namespace Step

def requests (caller : Nat) (steps : List Step) : List Address :=
  steps.flatMap (·.asked caller)

def failures (caller : Nat) (steps : List Step) : List Address :=
  steps.filterMap (·.failed? caller)

def Came (caller : Nat) (purpose : Purpose) (steps : List Step) : Prop :=
  ∃ step ∈ steps, step.Comes caller purpose

def Ends (step : Step) (caller : Nat) (outcome : Outcome) : Prop :=
  (∀ other, step.before.callers[caller]? ≠ some (.done other)) ∧
    step.after.callers[caller]? = some (.done outcome)

section History

variable (caller : Nat) (earlier : List Step) (step : Step)

@[simp] theorem requests_concat :
    requests caller (earlier ++ [step]) =
      requests caller earlier ++ step.asked caller := by
  simp [requests]

@[simp] theorem failures_concat :
    failures caller (earlier ++ [step]) =
      failures caller earlier ++ (step.failed? caller).toList := by
  cases failed : step.failed? caller <;> simp [failures, failed]

end History

structure Record (caller : Nat) (steps : List Step)
    (state? : Option Caller) : Prop where
  nodup : (requests caller steps).Nodup
  absent : state? = none →
    requests caller steps = [] ∧ failures caller steps = []
  waiting : ∀ purpose place, state? = some (.waiting purpose place) →
    Came caller purpose steps ∧
      requests caller steps = [] ∧ failures caller steps = []
  connecting : ∀ mode failed address,
    state? = some (.connecting mode failed address) →
      Came caller (.acquire mode) steps ∧
        failures caller steps = failed ∧
          requests caller steps = failed ++ [address]

namespace Record

variable {caller : Nat} {earlier : List Step} {step : Step}
  {mode : AccessMode} {failed : List Address}

theorem came_concat {purpose : Purpose}
    (came : Came caller purpose earlier) :
    Came caller purpose (earlier ++ [step]) := by
  rcases came with ⟨arrival, member, comes⟩
  exact ⟨arrival, List.mem_append_left _ member, comes⟩

/-- The list that a call selects by is the list of the servers that have
failed it, and it has asked for no others. -/
theorem of_selects
    (record : Record caller earlier step.before.callers[caller]?)
    (selects : step.Selects caller mode failed) :
    Came caller (.acquire mode) (earlier ++ [step]) ∧
      failures caller (earlier ++ [step]) = failed ∧
        requests caller earlier = failed := by
  cases selects with
  | enters comes isOpen free fresh =>
      rcases record.absent comes.absent with ⟨requests, failures⟩
      exact ⟨⟨step, by simp, comes⟩, by simp [failures, comes.unfailed],
        requests⟩
  | served place table event waiting ended =>
      rcases record.waiting _ _ waiting with ⟨came, requests, failures⟩
      exact ⟨came_concat came, by simp [failures, unfailed_of_look event],
        requests⟩
  | retries failed address error event connecting connectivity =>
      rcases record.connecting _ _ _ connecting with
        ⟨came, failures, requests⟩
      have fails : step.failed? caller = some address := by
        simp [failed?, event, connecting, connectivity]
      exact ⟨came_concat came, by simp [failures, fails], requests⟩

/-- A caller who comes to its end keeps its requests. -/
theorem of_done {outcome : Outcome}
    (record : Record caller earlier step.before.callers[caller]?)
    (moved : step.after.callers[caller]? = some (.done outcome))
    (silent : step.asked caller = []) :
    Record caller (earlier ++ [step]) step.after.callers[caller]? where
  nodup := by simpa [silent] using record.nodup
  absent := by simp [moved]
  waiting := by simp [moved]
  connecting := by simp [moved]

theorem after (record : Record caller earlier step.before.callers[caller]?) :
    Record caller (earlier ++ [step]) step.after.callers[caller]? := by
  cases step.leg caller with
  | rests same silent unfailed =>
      rw [same]
      exact {
        nodup := by simpa [silent] using record.nodup
        absent := by simpa [silent, unfailed] using record.absent
        waiting := by
          intro purpose place waiting
          have before := record.waiting purpose place waiting
          exact ⟨came_concat before.1, by simpa [silent, unfailed] using
            before.2⟩
        connecting := by
          intro mode failed address connecting
          have before := record.connecting mode failed address connecting
          exact ⟨came_concat before.1, by simpa [silent, unfailed] using
            before.2⟩ }
  | waits purpose place comes moved silent =>
      rcases record.absent comes.absent with ⟨requests, failures⟩
      have unfailed := comes.unfailed
      exact {
        nodup := by simp [requests, silent]
        absent := by simp [moved]
        waiting := by
          intro other slot waiting
          rw [moved] at waiting
          cases waiting
          exact ⟨⟨step, by simp, comes⟩, by simp [requests, silent],
            by simp [failures, unfailed]⟩
        connecting := by simp [moved] }
  | asks mode failed address selects moved asked listed unfailed =>
      rcases record.of_selects selects with ⟨came, failures, requests⟩
      have nodup := record.nodup
      rw [requests] at nodup
      exact {
        nodup := by
          rw [requests_concat, requests, asked]
          exact List.nodup_append.mpr ⟨nodup, by simp, by grind⟩
        absent := by simp [moved]
        waiting := by simp [moved]
        connecting := by
          intro other list server connecting
          rw [moved] at connecting
          cases connecting
          exact ⟨came, failures, by rw [requests_concat, requests, asked]⟩ }
  | lacks mode failed selects moved silent exhausted =>
      exact record.of_done moved silent
  | ends outcome ending moved silent unfailed =>
      exact record.of_done moved silent

end Record

end Step

namespace System

theorem record_trace {caller : Nat} {system : System} {earlier : List Step}
    (record : Step.Record caller earlier system.callers[caller]?)
    (inputs : List (Surroundings × Event)) :
    Step.Record caller (earlier ++ system.trace inputs)
      (system.run inputs).callers[caller]? := by
  induction inputs generalizing system earlier with
  | nil => simpa [trace, run] using record
  | cons input rest induction =>
      let step : Step := ⟨system, input.1, input.2⟩
      have later : Step.Record caller
          ((earlier ++ [step]) ++ step.after.trace rest)
          (step.after.run rest).callers[caller]? :=
        induction (Step.Record.after record)
      rw [List.append_assoc] at later
      exact later

end System

namespace Step

variable {step : Step} {caller : Nat}

theorem callers_length_of_comes {purpose : Purpose}
    (comes : step.Comes caller purpose) :
    step.after.callers.length = caller + 1 := by
  rw [← comes.2]
  cases step.arrival comes.1 with
  | refused closed result => simp [after_of_result result]
  | joins place isOpen held result => simp [after_of_result result]
  | starts text isOpen free stale result => simp [after_of_result result]
  | enters isOpen free fresh result =>
      rcases enters result with ⟨state, callers, _⟩
      simp [callers]

theorem selects_of_asked {address : Address}
    (member : .acquire caller address ∈ step.effects) :
    ∃ mode failed, step.Selects caller mode failed ∧
      address ∈ (step.after.balancer.table.servers mode).toList ∧
        address ∉ failed := by
  rw [← mem_asked] at member
  cases step.leg caller with
  | rests same silent unfailed => simp [silent] at member
  | waits purpose place comes moved silent => simp [silent] at member
  | asks mode failed server selects moved asked listed unfailed =>
      rw [asked, List.mem_singleton] at member
      subst member
      exact ⟨mode, failed, selects, listed, unfailed⟩
  | lacks mode failed selects moved silent exhausted =>
      simp [silent] at member
  | ends outcome ending moved silent unfailed => simp [silent] at member

/-- The ways in which a step can bring a call to its end. -/
theorem ending_of_ends {outcome : Outcome} (ends : step.Ends caller outcome) :
    step.Ending caller outcome ∨
      ∃ mode failed, step.Selects caller mode failed ∧
        outcome = .failed
          (step.after.balancer.noServer step.surroundings.now mode) ∧
        ∀ address ∈ (step.after.balancer.table.servers mode).toList,
          address ∈ failed := by
  rcases ends with ⟨before, after⟩
  cases step.leg caller with
  | rests same silent unfailed => exact absurd (same ▸ after) (before outcome)
  | waits purpose place comes moved silent =>
      rw [moved] at after
      cases after
  | asks mode failed server selects moved asked listed unfailed =>
      rw [moved] at after
      cases after
  | lacks mode failed selects moved silent exhausted =>
      rw [moved] at after
      cases after
      exact .inr ⟨mode, failed, selects, rfl, exhausted⟩
  | ends reached ending moved silent unfailed =>
      rw [moved] at after
      cases after
      exact .inl ending

end Step

/-- What holds of the requests of one call, from its coming on. -/
structure CarefulCall (caller : Nat) (mode : AccessMode)
    (steps : List Step) : Prop where
  asks : ∀ earlier step later, steps = earlier ++ step :: later →
    ∀ address, .acquire caller address ∈ step.effects →
      address ∈ (step.after.balancer.table.servers mode).toList ∧
        address ∉ Step.failures caller (earlier ++ [step])
  once : (Step.requests caller steps).Nodup
  returns : ∀ earlier step later, steps = earlier ++ step :: later →
    ∀ address, .acquire caller address ∈ step.effects →
      ∀ before removal after,
        (earlier ++ [step]).flatMap Step.deeds = before ++ removal :: after →
          removal.Removes mode.role address →
            ∃ composition, .install composition ∈ after ∧
              address ∈ (composition.members mode.role).toList
  /-- The call is told that no server is left only when all that serve the mode
  have failed it, unless the pool itself says so. -/
  lacks : ∀ earlier step later, steps = earlier ++ step :: later →
    ∀ error, step.Ends caller (.failed error) → error.LacksServer →
      step.event ≠ .pooled caller (.error error) →
        error =
          step.after.balancer.noServer step.surroundings.now mode ∧
        ∀ address ∈ (step.after.balancer.table.servers mode).toList,
          address ∈ Step.failures caller (earlier ++ [step])
  connects : ∀ earlier step later, steps = earlier ++ step :: later →
    ∀ routed, step.Ends caller (.connected routed) →
      ∃ connection address, step.event = .pooled caller (.ok connection) ∧
        routed = ⟨connection, mode⟩ ∧
          Step.requests caller earlier =
            Step.failures caller earlier ++ [address]

namespace System

theorem came_unique {system : System} {inputs : List (Surroundings × Event)}
    {caller : Nat} {first second : Purpose}
    (left : Step.Came caller first (system.trace inputs))
    (right : Step.Came caller second (system.trace inputs)) :
    first = second := by
  rcases left with ⟨left, leftMember, leftComes⟩
  rcases right with ⟨right, rightMember, rightComes⟩
  -- The number of callers never falls, and each arrival raises it.
  have leftLength := Step.callers_length_of_comes leftComes
  have rightLength := Step.callers_length_of_comes rightComes
  have leftBefore := leftComes.2
  have rightBefore := rightComes.2
  have ordered := ordered_of_mem_trace
    (fun first second => first.callers.length ≤ second.callers.length)
    (fun _ => Nat.le_refl _) Nat.le_trans
    (fun step => step.callers_length_le) leftMember rightMember
  rcases ordered with equal | later | earlier
  · subst equal
    exact Event.arrive.inj (leftComes.1.symm.trans rightComes.1)
  · omega
  · omega

theorem mode_eq_of_came {system : System}
    {inputs : List (Surroundings × Event)} {caller : Nat}
    {mode other : AccessMode} {earlier later : List Step}
    (came : Step.Came caller (.acquire mode) (system.trace inputs))
    (split : system.trace inputs = earlier ++ later)
    (arrived : Step.Came caller (.acquire other) earlier) : other = mode := by
  rcases arrived with ⟨arrival, member, comes⟩
  have present : arrival ∈ system.trace inputs := by
    rw [split]
    exact List.mem_append_left later member
  exact Purpose.acquire.inj (came_unique ⟨arrival, present, comes⟩ came)

structure Unused (system : System) : Prop where
  callers : system.callers = []
  refreshes : system.balancer.refreshes = []

namespace Unused

variable {system : System} (unused : system.Unused) {caller : Nat}
  {mode : AccessMode} {inputs : List (Surroundings × Event)}
  {earlier later : List Step} {step : Step}
include unused

theorem record_initial : Step.Record caller [] system.callers[caller]? :=
  ⟨List.nodup_nil, fun _ => ⟨rfl, rfl⟩, by simp [unused.callers],
    by simp [unused.callers]⟩

/-- The history of every call at each step of a run. -/
theorem record (split : system.trace inputs = earlier ++ step :: later) :
    Step.Record caller earlier step.before.callers[caller]? := by
  rcases trace_split_cons split with ⟨first, input, _, _, rfl, rfl, _⟩
  exact record_trace unused.record_initial first

theorem justified {Property : Timestamp → Composition → Prop}
    (finds : system.balancer.provider.Finds Property)
    (member : step ∈ system.trace inputs) :
    step.before.balancer.Justified Property := by
  have initial : system.balancer.Justified Property := by
    refine ⟨finds, ?_⟩
    intro refresh member
    rw [unused.refreshes] at member
    cases member
  exact @trace_preserves (fun system => system.balancer.Justified Property)
    (fun _ before => Step.justified_after before) _ initial _ _ member

variable (came : Step.Came caller (.acquire mode) (system.trace inputs))
include came

/-- All that a selection knows is known from the steps up to it. -/
theorem selected {other : AccessMode} {failed : List Address}
    (split : system.trace inputs = earlier ++ step :: later)
    (selects : step.Selects caller other failed) :
    other = mode ∧ Step.failures caller (earlier ++ [step]) = failed := by
  rcases (unused.record split).of_selects selects with ⟨arrived, failures, _⟩
  have whole : system.trace inputs = (earlier ++ [step]) ++ later := by
    simp [split]
  exact ⟨mode_eq_of_came came whole arrived, failures⟩

theorem asks_of_split
    (split : system.trace inputs = earlier ++ step :: later)
    {address : Address} (member : .acquire caller address ∈ step.effects) :
    address ∈ (step.after.balancer.table.servers mode).toList ∧
      address ∉ Step.failures caller (earlier ++ [step]) := by
  rcases Step.selects_of_asked member with
    ⟨other, failed, selects, listed, unfailed⟩
  rcases unused.selected came split selects with ⟨rfl, rfl⟩
  exact ⟨listed, unfailed⟩

theorem returns_of_split
    (split : system.trace inputs = earlier ++ step :: later)
    {address : Address} (member : .acquire caller address ∈ step.effects)
    {before after : List Deed} {removal : Deed}
    (deeds : (earlier ++ [step]).flatMap Step.deeds =
      before ++ removal :: after)
    (removes : removal.Removes mode.role address) :
    ∃ composition, .install composition ∈ after ∧
      address ∈ (composition.members mode.role).toList := by
  have listed := (unused.asks_of_split came split member).1
  rcases trace_split_cons split with ⟨first, input, _, _, rfl, rfl, _⟩
  have reached : system.trace first ++
      [⟨system.run first, input.1, input.2⟩] =
        system.trace (first ++ [input]) := by
    rw [trace_append]
    rfl
  have describes := Account.describes_enterAll
    (Account.describes_ofTable system.balancer.table)
    ((system.trace (first ++ [input])).flatMap Step.deeds)
  rw [← run_table, ← reached, deeds, run_append] at describes
  rw [← Table.members_role] at listed
  exact Account.installed_of_removed describes removes listed

theorem lacks_of_split
    (split : system.trace inputs = earlier ++ step :: later) {error : Error}
    (ends : step.Ends caller (.failed error)) (lacks : error.LacksServer)
    (unheard : step.event ≠ .pooled caller (.error error)) :
    error = step.after.balancer.noServer step.surroundings.now mode ∧
      ∀ address ∈ (step.after.balancer.table.servers mode).toList,
        address ∈ Step.failures caller (earlier ++ [step]) := by
  rcases Step.ending_of_ends ends with
    ending | ⟨other, failed, selects, told, exhausted⟩
  · cases ending with
    | refused purpose comes closed =>
        rcases lacks with ⟨rest, equal⟩
        cases equal
    | shared purpose place balancer error event waiting seen =>
        have member : step ∈ system.trace inputs := by simp [split]
        have justified := unused.justified (Provider.finds_any _) member
        exact absurd lacks (justified.not_lacksServer seen)
    | surrenders other failed address error event connecting connectivity =>
        exact absurd event unheard
  · rcases unused.selected came split selects with ⟨rfl, rfl⟩
    exact ⟨Outcome.failed.inj told, exhausted⟩

theorem connects_of_split
    (split : system.trace inputs = earlier ++ step :: later)
    {routed : RoutedConnection} (ends : step.Ends caller (.connected routed)) :
    ∃ connection address, step.event = .pooled caller (.ok connection) ∧
      routed = ⟨connection, mode⟩ ∧
        Step.requests caller earlier =
          Step.failures caller earlier ++ [address] := by
  rcases Step.ending_of_ends ends with ending | ⟨_, _, _, told, _⟩
  · cases ending with
    | connects other failed address connection event connecting =>
        rcases (unused.record split).connecting _ _ _ connecting with
          ⟨arrived, failures, requests⟩
        cases mode_eq_of_came came split arrived
        exact ⟨connection, address, event, rfl, by rw [requests, failures]⟩
  · cases told

end Unused

/-- Every call for a connection is careful, in every run of a balancer from
its opening on: for any policy, and for any order of the other callers, of
answers, failures and reports. -/
theorem carefulCall_run (discovery : Discovery) (provider : Provider)
    (table : Table) (selection : Selection)
    (inputs : List (Surroundings × Event)) (caller : Nat) (mode : AccessMode)
    (came : Step.Came caller (.acquire mode)
      ((opened discovery provider table selection).trace inputs)) :
    CarefulCall caller mode
      ((opened discovery provider table selection).trace inputs) := by
  have unused : (opened discovery provider table selection).Unused :=
    ⟨rfl, rfl⟩
  exact {
    asks := fun _ _ _ split _ member =>
      unused.asks_of_split came split member
    once := (record_trace unused.record_initial inputs).nodup
    returns := fun _ _ _ split _ member _ _ _ deeds removes =>
      unused.returns_of_split came split member deeds removes
    lacks := fun _ _ _ split _ ends lacks unheard =>
      unused.lacks_of_split came split ends lacks unheard
    connects := fun _ _ _ split _ ends =>
      unused.connects_of_split came split ends }

end System

/-- The leader fails a call, after another caller has brought about a refresh
that lists it again. -/
def Handover.retried : List (Surroundings × Event) :=
  let writers := [leader, follower]
  asked ++ answered [] writers :: (surroundings, .look 0) ::
    asked ++ [answered [] writers,
      (surroundings, .pooled 0 (.error (.connection "refused"))),
      (surroundings, .pooled 0 (.ok ⟨follower, none, 0⟩))]

theorem System.carefulCall_run_retried :
    let steps := Handover.opened.trace Handover.retried
    Step.requests 0 steps = [Handover.leader, Handover.follower] ∧
      CarefulCall 0 .write steps :=
  ⟨by decide +kernel,
    System.carefulCall_run _ _ _ _ _ 0 .write
      ⟨_, List.mem_cons_self, rfl, rfl⟩⟩

end ClusterRouting
