import ClusterRouting.Proofs.Requests
import ClusterRouting.Simulation.Scene

/-! Uses: what comes of the use of a connection that a caller holds.

A failure is interpreted for the caller, and what it says about the server is
acted on in the same step. A server that cannot be reached is left out of the
whole table, a writer that refuses to write is left out of the writers only,
and nothing else ever changes. -/

namespace ClusterRouting

namespace Error

inductive Unreachable : Error → Prop
  | connection (message : String) : Unreachable (.connection message)
  | serviceUnavailable (message : String) :
      Unreachable (.serviceUnavailable message)
  | io (message : String) : Unreachable (.io message)

inductive RejectsWrite : Error → String → Prop
  | notALeader (message : String) :
      RejectsWrite (.server notALeader message) notALeader
  | readOnlyDatabase (message : String) :
      RejectsWrite (.server readOnlyDatabase message) readOnlyDatabase

theorem isConnectivity_iff {error : Error} :
    error.isConnectivity = true ↔ error.Unreachable := by
  constructor
  · intro connectivity
    cases error with
    | connection message => exact .connection message
    | serviceUnavailable message => exact .serviceUnavailable message
    | io message => exact .io message
    | _ => cases connectivity
  · intro unreachable
    cases unreachable <;> rfl

theorem isWriteRejection_iff {error : Error} :
    error.isWriteRejection = true ↔ ∃ code, error.RejectsWrite code := by
  constructor
  · intro rejection
    cases error with
    | server code message =>
        simp only [isWriteRejection, code?, Bool.or_eq_true, beq_iff_eq,
          Option.some.injEq] at rejection
        rcases rejection with rfl | rfl
        · exact ⟨_, .notALeader message⟩
        · exact ⟨_, .readOnlyDatabase message⟩
    | _ => cases rejection
  · rintro ⟨code, rejects⟩
    cases rejects <;> simp [isWriteRejection, code?]

theorem RejectsWrite.code {error : Error} {code : String}
    (rejects : error.RejectsWrite code) : error.code? = some code := by
  cases rejects <;> rfl

theorem RejectsWrite.reachable {error : Error} {code : String}
    (rejects : error.RejectsWrite code) : error.isConnectivity = false := by
  cases rejects <;> rfl

end Error

structure Aftermath (Result : Type) where
  told : Except Error Result
  system : System
  effects : List Effect

namespace System

variable {Result : Type}

/-- The outcome of a use as the holder of the connection sees it, and the step
that the system takes on what it says about the server. -/
def use (system : System) (surroundings : Surroundings)
    (routed : RoutedConnection) (outcome : Except Error Result) :
    Aftermath Result :=
  match routed.outcome outcome with
  | (told, some report) =>
      let (system, effects) := system.step surroundings (.report report)
      ⟨told, system, effects⟩
  | (told, none) => ⟨told, system, []⟩

def withTable (system : System) (table : Table) : System :=
  { system with balancer := { system.balancer with table } }

variable (system : System) (surroundings : Surroundings)
  (routed : RoutedConnection) {error : Error} {code : String}

theorem use_of_unreachable (unreachable : error.Unreachable) :
    system.use surroundings routed (.error error : Except Error Result) =
      ⟨.error (.sessionExpired ("Server at " ++ routed.server.describe ++
          " is no longer available: " ++ error.describe)),
        system.withTable (system.balancer.table.forget routed.server),
        [.purge routed.server]⟩ := by
  have connectivity := Error.isConnectivity_iff.mpr unreachable
  simp only [use, RoutedConnection.outcome, RoutedConnection.interpret,
    connectivity, if_true]
  rfl

theorem use_of_demotion (rejects : error.RejectsWrite code)
    (writes : routed.mode = .write) :
    system.use surroundings routed (.error error : Except Error Result) =
      ⟨.error (.sessionExpired ("Server at " ++ routed.server.describe ++
          " no longer accepts writes")),
        system.withTable (system.balancer.table.removeWriter routed.server),
        []⟩ := by
  have rejection := Error.isWriteRejection_iff.mpr ⟨code, rejects⟩
  simp only [use, RoutedConnection.outcome, RoutedConnection.interpret,
    rejects.reachable, rejection, writes, Bool.false_eq_true, if_false,
    if_true]
  rfl

theorem use_of_misuse (rejects : error.RejectsWrite code)
    (reads : routed.mode = .read) :
    system.use surroundings routed (.error error : Except Error Result) =
      ⟨.error (.server code
          "Write queries cannot be performed in READ access mode."),
        system, []⟩ := by
  have rejection := Error.isWriteRejection_iff.mpr ⟨code, rejects⟩
  simp only [use, RoutedConnection.outcome, RoutedConnection.interpret,
    rejects.reachable, rejection, reads, rejects.code, Bool.false_eq_true,
    if_false, if_true, Option.getD_some]

/-- An outcome that says nothing about the server. -/
theorem use_of_other {outcome : Except Error Result}
    (reachable : ∀ error, outcome = .error error → ¬ error.Unreachable)
    (willing : ∀ error code, outcome = .error error →
      ¬ error.RejectsWrite code) :
    system.use surroundings routed outcome = ⟨outcome, system, []⟩ := by
  cases outcome with
  | ok value => rfl
  | error error =>
      have connectivity : error.isConnectivity = false := by
        rw [← Bool.not_eq_true, Error.isConnectivity_iff]
        exact reachable error rfl
      have rejection : error.isWriteRejection = false := by
        rw [← Bool.not_eq_true, Error.isWriteRejection_iff]
        exact fun ⟨code, rejects⟩ => willing error code rfl rejects
      simp only [use, RoutedConnection.outcome, RoutedConnection.interpret,
        connectivity, rejection, Bool.false_eq_true, if_false]

/-- Whatever comes of a use, the routing table only loses members by it. -/
theorem use_shrinks (outcome : Except Error Result) :
    ∃ table, system.balancer.table.Shrinks table ∧
      (system.use surroundings routed outcome).system =
        system.withTable table := by
  unfold use
  split
  · rename_i told report interpreted
    exact ⟨_, .report _ report, by cases report <;> rfl⟩
  · exact ⟨_, .refl _, rfl⟩

end System

namespace Simulation.Scene

variable {scene : Scene} {number : Nat} {routed : RoutedConnection}
  (place : Nat) (found : scene.connections[number]? = some routed)
include found

/-- In a simulated world, a connection is used as in any other. -/
theorem act_run (query : String) (parameters : List (String × Value)) :
    let replied := (scene.world.record
      (.run routed.server query parameters)).ran routed.connection
    let aftermath :=
      scene.system.use replied.1.surroundings routed replied.2
    scene.act place (.use number (.run query parameters)) =
      (aftermath.effects.foldl perform
        { scene with world := replied.1, system := aftermath.system }).finish
          place (.used (.ran aftermath.told)) := by
  simp only [act, found, World.use, System.use]
  split <;> rename_i interpreted <;> simp only [interpreted] <;> rfl

theorem act_release :
    let replied := (scene.world.record (.release routed.server)).released
      routed.connection
    let aftermath :=
      scene.system.use replied.1.surroundings routed replied.2
    scene.act place (.use number .release) =
      (aftermath.effects.foldl perform
        { scene with world := replied.1, system := aftermath.system }).finish
          place (.used (.released aftermath.told)) := by
  simp only [act, found, World.use, System.use]
  split <;> rename_i interpreted <;> simp only [interpreted] <;> rfl

end Simulation.Scene

/-- What holds of the use of a connection to `address` that was handed out for
a `mode`, by the outcome of the query or of giving the connection back. -/
structure HeededUse {Result : Type} (mode : AccessMode) (address : Address)
    (system : System) (outcome : Except Error Result)
    (aftermath : Aftermath Result) : Prop where
  unreachable : ∀ error, outcome = .error error → error.Unreachable →
    (∃ text, aftermath.told = .error (.sessionExpired text)) ∧
      aftermath.effects = [.purge address] ∧
        ∀ role, (aftermath.system.balancer.table.members role).toList =
          (system.balancer.table.members role).toList.filter (· != address)
  demotes : ∀ error code, outcome = .error error → error.RejectsWrite code →
    mode = .write →
      (∃ text, aftermath.told = .error (.sessionExpired text)) ∧
        aftermath.effects = [] ∧
          aftermath.system.balancer.table.writers.toList =
            system.balancer.table.writers.toList.filter (· != address) ∧
          ∀ role, role ≠ .write →
            aftermath.system.balancer.table.members role =
              system.balancer.table.members role
  forbids : ∀ error code, outcome = .error error → error.RejectsWrite code →
    mode = .read →
      (∃ text, aftermath.told = .error (.server code text)) ∧
        aftermath.effects = [] ∧ aftermath.system = system
  passes :
    (∀ error, outcome = .error error →
      ¬ error.Unreachable ∧ ∀ code, ¬ error.RejectsWrite code) →
    aftermath.told = outcome ∧ aftermath.effects = [] ∧
      aftermath.system = system
  expires : aftermath.system.balancer.table.expires =
    system.balancer.table.expires
  rest : aftermath.system =
    system.withTable aftermath.system.balancer.table

namespace System

theorem heededUse {Result : Type} (system : System)
    (surroundings : Surroundings) (routed : RoutedConnection)
    (outcome : Except Error Result) :
    HeededUse routed.mode routed.server system outcome
      (system.use surroundings routed outcome) where
  unreachable := by
    rintro error rfl unreachable
    rw [system.use_of_unreachable surroundings routed unreachable]
    exact ⟨⟨_, rfl⟩, rfl, fun role => Table.members_forget _ _ role⟩
  demotes := by
    rintro error code rfl rejects writes
    rw [system.use_of_demotion surroundings routed rejects writes]
    refine ⟨⟨_, rfl⟩, rfl, rfl, ?_⟩
    intro role other
    cases role with
    | route => rfl
    | write => exact absurd rfl other
    | read => rfl
  forbids := by
    rintro error code rfl rejects reads
    rw [system.use_of_misuse surroundings routed rejects reads]
    exact ⟨⟨_, rfl⟩, rfl, rfl⟩
  passes := by
    intro harmless
    rw [system.use_of_other surroundings routed
      (fun error failed => (harmless error failed).1)
      (fun error code failed => (harmless error failed).2 code)]
    exact ⟨rfl, rfl, rfl⟩
  expires := by
    rcases system.use_shrinks surroundings routed outcome with
      ⟨table, shrinks, equal⟩
    rw [equal]
    exact shrinks.expires
  rest := by
    rcases system.use_shrinks surroundings routed outcome with
      ⟨table, _, equal⟩
    rw [equal]
    rfl

/-- Whatever comes of the use of a connection that a balancer has handed out is
heeded, in any state of the routing table. The connection was asked for in the
mode in which it is used. -/
theorem heededUse_run (discovery : Discovery) (provider : Provider)
    (table : Table) (selection : Selection)
    (inputs : List (Surroundings × Event)) (caller : Nat) (mode : AccessMode)
    (routed : RoutedConnection)
    (came : Step.Came caller (.acquire mode)
      ((opened discovery provider table selection).trace inputs))
    (handed : ∃ step ∈ (opened discovery provider table selection).trace
      inputs, step.Ends caller (.connected routed)) :
    ∀ (Result : Type) (system : System) (surroundings : Surroundings)
      (outcome : Except Error Result),
      HeededUse mode routed.server system outcome
        (system.use surroundings routed outcome) := by
  intro Result system surroundings outcome
  have unused : (opened discovery provider table selection).Unused :=
    ⟨rfl, rfl⟩
  rcases handed with ⟨step, member, ends⟩
  rcases List.append_of_mem member with ⟨earlier, later, split⟩
  rcases unused.connects_of_split came split ends with
    ⟨connection, address, event, equal, requests⟩
  have asked : routed.mode = mode := by rw [equal]
  rw [← asked]
  exact system.heededUse surroundings routed outcome

end System

deriving instance DecidableEq for Caller

namespace Handover

def written : RoutedConnection := ⟨⟨follower, none, 0⟩, .write⟩

def gain : Step :=
  (opened.trace retried).getLast (List.cons_ne_nil _ _)

theorem ends_gain : gain.Ends 0 (.connected written) := by
  have connecting : gain.before.callers[0]? =
      some (.connecting .write [leader] follower) := by decide +kernel
  constructor
  · intro other ended
    rw [connecting] at ended
    cases ended
  · decide +kernel

end Handover

/-- The follower leads for a while, and then it does not any more. -/
theorem System.heededUse_run_demoted :
    let steps := Handover.opened.trace Handover.retried
    let last := Handover.opened.run Handover.retried
    let outcome : Except Error (List Record) :=
      .error (.server Error.notALeader "not a leader")
    let aftermath := last.use Handover.surroundings Handover.written outcome
    last.balancer.table.writers.toList = [Handover.follower] ∧
      Step.Came 0 (.acquire .write) steps ∧
      (∃ step ∈ steps, step.Ends 0 (.connected Handover.written)) ∧
      HeededUse .write Handover.follower last outcome aftermath := by
  have came : Step.Came 0 (.acquire .write)
      (Handover.opened.trace Handover.retried) :=
    ⟨_, List.mem_cons_self, rfl, rfl⟩
  have handed : ∃ step ∈ Handover.opened.trace Handover.retried,
      step.Ends 0 (.connected Handover.written) :=
    ⟨_, List.getLast_mem _, Handover.ends_gain⟩
  exact ⟨by decide +kernel, came, handed,
    System.heededUse_run _ _ _ _ _ 0 .write Handover.written came handed _ _ _
      _⟩

end ClusterRouting
