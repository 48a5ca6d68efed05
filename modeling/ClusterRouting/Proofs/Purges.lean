import ClusterRouting.Proofs.Deeds

/-! Purges: when the pool's connections to a server are dropped, and when they
are not.

A refresh drops them for the readers and writers that leave their role with the
composition, a report of a server that cannot be reached drops them at once. A
router that a search forgets, and a writer that refuses to write, leave the
table and keep their connections. -/

namespace ClusterRouting

namespace Table

def Serves (table : Table) (address : Address) : Prop :=
  ∃ mode, address ∈ (table.servers mode).toList

variable {table : Table} {address : Address}

theorem serves_iff :
    table.Serves address ↔
      address ∈ table.readers.toList ∨ address ∈ table.writers.toList := by
  constructor
  · rintro ⟨mode, member⟩
    cases mode with
    | read => exact .inl member
    | write => exact .inr member
  · rintro (reader | writer)
    · exact ⟨.read, reader⟩
    · exact ⟨.write, writer⟩

instance : Decidable (table.Serves address) :=
  decidable_of_iff _ serves_iff.symm

theorem serves_forget {other : Address} :
    (table.forget other).Serves address ↔
      table.Serves address ∧ address ≠ other := by
  simp [serves_iff, forget, or_and_right]

theorem serves_forgetAll {others : List Address} :
    (others.foldl forget table).Serves address ↔
      table.Serves address ∧ address ∉ others := by
  induction others generalizing table with
  | nil => simp
  | cons other rest induction =>
      rw [List.foldl_cons, induction, serves_forget, and_assoc]
      simp

/-- An address that refuses to write stops to serve only if it is the one that
is taken out. -/
theorem serves_of_removeWriter {other : Address} (different : address ≠ other)
    (serves : table.Serves address) :
    (table.removeWriter other).Serves address := by
  simp only [serves_iff, removeWriter, Roster.mem_toList_erase] at serves ⊢
  exact serves.imp_right fun writer => ⟨writer, different⟩

/-- Dropped are those who lose a role, even if they are listed in the other. -/
theorem mem_removed {composition : Composition} :
    address ∈ (table.removed composition).toList ↔
      ∃ mode, address ∈ (table.servers mode).toList ∧
        address ∉ ((table.update composition).servers mode).toList := by
  have lost (roster : Roster) (incoming : List Address) :
      address ∈ roster.missing incoming ↔
        address ∈ roster.toList ∧
          address ∉ (roster.update incoming).toList := by
    simp
  rw [removed, Roster.mem_toList_ofList, List.mem_append, lost, lost]
  constructor
  · rintro (reader | writer)
    · exact ⟨.read, reader⟩
    · exact ⟨.write, writer⟩
  · rintro ⟨mode, parts⟩
    cases mode with
    | read => exact .inl parts
    | write => exact .inr parts

end Table

/-! ## A handover

A cluster in which the old leader becomes a follower, or goes away. Its
compositions expire at once, so that every caller starts a refresh. -/

namespace Handover

def router : Address := ⟨"router", Address.standardPort⟩
def leader : Address := ⟨"leader", Address.standardPort⟩
def follower : Address := ⟨"follower", Address.standardPort⟩

def discovery : Discovery :=
  { initialRouter := router, settings := { retryDelay := .zero } }

def selection : Selection := { policy := .random }

def opened : System :=
  .opened discovery .external (.ofRouters [router]) selection

def surroundings : Surroundings := ⟨0, fun _ => 0, 0⟩

def composition (readers writers : List Address) : Composition :=
  .ofLists 0 readers writers [router]

def asked : List (Surroundings × Event) :=
  [(surroundings, .arrive (.acquire .write)), (surroundings, .proceed)]

def answered (readers writers : List Address) : Surroundings × Event :=
  (surroundings, .answer (.composed (.ok (composition readers writers))))

/-- The refresh with which leader and follower change places. -/
def swap : Step :=
  let inputs := asked ++ answered [follower] [leader] :: asked
  let last := answered [leader] [follower]
  ⟨opened.run inputs, last.1, last.2⟩

theorem installed_swap :
    swap.installed? = some (composition [leader] [follower]) := by
  decide +kernel

def refused : List (Surroundings × Event) :=
  asked ++ answered [follower] [leader] ::
    (surroundings, .report (.refusesWrites leader)) :: asked

/-- The end of the refresh that leaves the old leader out. -/
def farewell : Surroundings × Event :=
  answered [follower] [follower]

end Handover

namespace Step

variable {step : Step} {address : Address}

/-- A refresh that succeeds drops the connections of exactly those who lose one
of their roles with it, once for each address. -/
theorem purge_of_settles {place : Nat}
    {progress : Progress (Except Error Composition)}
    {composition : Composition}
    (settles : step.Settles place progress (.ok composition)) :
    step.purged.Nodup ∧
      ∀ address, .purge address ∈ step.effects ↔
        ∃ mode, address ∈ (progress.table.servers mode).toList ∧
          address ∉ (step.after.balancer.table.servers mode).toList := by
  rcases change_of_settles settles with ⟨table, purged⟩
  constructor
  · rw [purged]
    exact (progress.table.removed composition).nodup
  · intro address
    rw [← mem_purged, purged, table]
    exact Table.mem_removed

theorem purge_of_settles_swap :
    ∃ place progress,
      Handover.swap.Settles place progress
        (.ok (Handover.composition [Handover.leader] [Handover.follower])) ∧
      Handover.swap.purged.Nodup ∧
        ∀ address, .purge address ∈ Handover.swap.effects ↔
          ∃ mode, address ∈ (progress.table.servers mode).toList ∧
            address ∉
              (Handover.swap.after.balancer.table.servers mode).toList := by
  rcases installed_iff.mp Handover.installed_swap with
    ⟨place, progress, settles⟩
  exact ⟨place, progress, settles, purge_of_settles settles⟩

/-- A server that changes its role loses its connections. -/
theorem purge_of_role_change :
    ¬ ∀ (step : Step) (place : Nat)
        (progress : Progress (Except Error Composition))
        (composition : Composition) (address : Address),
      step.Settles place progress (.ok composition) →
        .purge address ∈ step.effects →
          ¬ step.after.balancer.table.Serves address := by
  intro claim
  rcases installed_iff.mp Handover.installed_swap with
    ⟨place, progress, settles⟩
  have purged : Handover.leader ∈ Handover.swap.purged := by decide +kernel
  have serves :
      Handover.swap.after.balancer.table.Serves Handover.leader := by
    decide +kernel
  exact claim _ _ _ _ Handover.leader settles (mem_purged.mp purged) serves

theorem purge_of_departure (served : step.before.balancer.table.Serves address)
    (gone : ¬ step.after.balancer.table.Serves address) :
    .purge address ∈ step.effects ↔
      address ∉ step.forgotten ∧
        step.reported? ≠ some (.refusesWrites address) := by
  rw [← mem_purged]
  cases step.change with
  | searches unreported uninstalled table purged =>
      rw [table, searched, Table.serves_forgetAll] at gone
      have forgotten : address ∈ step.forgotten :=
        Decidable.byContradiction fun kept => gone ⟨served, kept⟩
      simp [purged, forgotten]
  | reports report reported unsearched uninstalled table purged =>
      rw [table] at gone
      cases report with
      | unreachable other =>
          have same : address = other :=
            Decidable.byContradiction fun different =>
              gone (Table.serves_forget.mpr ⟨served, different⟩)
          simp [purged, Report.purged, unsearched, reported, same]
      | refusesWrites other =>
          have same : address = other :=
            Decidable.byContradiction fun different =>
              gone (Table.serves_of_removeWriter different served)
          simp [purged, Report.purged, reported, same]
  | installs place progress composition settles unreported installed table
      purged =>
      have lost : address ∉ step.forgotten ↔
          step.searched.Serves address := by
        rw [searched, Table.serves_forgetAll]
        simp [served]
      rw [purged, Table.mem_removed, ← table, lost, unreported]
      constructor
      · rintro ⟨mode, before, _⟩
        exact ⟨⟨mode, before⟩, by simp⟩
      · rintro ⟨⟨mode, before⟩, _⟩
        exact ⟨mode, before, fun after => gone ⟨mode, after⟩⟩

/-- While an address is no reader or writer, only a report of it makes the pool
drop its connections. -/
theorem purge_of_absence
    (absent : ¬ step.before.balancer.table.Serves address) :
    .purge address ∈ step.effects ↔
      step.reported? = some (.unreachable address) := by
  rw [← mem_purged]
  cases step.change with
  | searches unreported uninstalled table purged =>
      simp [purged, unreported]
  | reports report reported unsearched uninstalled table purged =>
      cases report with
      | unreachable other =>
          simp [purged, Report.purged, reported, eq_comm]
      | refusesWrites other => simp [purged, Report.purged, reported]
  | installs place progress composition settles unreported installed table
      purged =>
      rw [purged, Table.mem_removed, unreported]
      constructor
      · rintro ⟨mode, before, _⟩
        have served : step.searched.Serves address := ⟨mode, before⟩
        rw [searched, Table.serves_forgetAll] at served
        exact absurd served.1 absent
      · intro impossible
        cases impossible

end Step

/-- The last step of a run before which an address is a reader or a writer, and
the steps that follow. -/
structure Departure (steps : List Step) (address : Address)
    (departure : Step) (later : List Step) : Prop where
  split : ∃ earlier, steps = earlier ++ departure :: later
  served : departure.before.balancer.table.Serves address
  absent : ∀ step ∈ later, ¬ step.before.balancer.table.Serves address

/-- Of every server that has left the readers and writers, the pool's
connections are dropped as it leaves, unless a search has forgotten it or it
has refused to write, and after that whenever it is reported. This holds at
each moment of a run, and so when a refresh has just succeeded. -/
theorem System.purge_since_departure {system : System}
    {inputs : List (Surroundings × Event)} {address : Address}
    (served : ∃ step ∈ system.trace inputs,
      step.before.balancer.table.Serves address)
    (gone : ¬ (system.run inputs).balancer.table.Serves address) :
    ∃ departure later,
      Departure (system.trace inputs) address departure later ∧
        (.purge address ∈ departure.effects ↔
          address ∉ departure.forgotten ∧
            departure.reported? ≠ some (.refusesWrites address)) ∧
        ∀ step ∈ later, .purge address ∈ step.effects ↔
          step.reported? = some (.unreachable address) := by
  rcases last_of_trace (fun system => system.balancer.table.Serves address)
    served gone with
    ⟨earlier, departure, later, split, before, after, absent⟩
  exact ⟨departure, later, ⟨⟨earlier, split⟩, before, absent⟩,
    Step.purge_of_departure before after,
    fun step member => Step.purge_of_absence (absent step member)⟩

theorem System.purge_since_departure_farewell :
    let steps :=
      Handover.opened.trace (Handover.refused ++ [Handover.farewell])
    ∃ departure later,
      Departure steps Handover.leader departure later ∧
        (.purge Handover.leader ∈ departure.effects ↔
          Handover.leader ∉ departure.forgotten ∧
            departure.reported? ≠ some (.refusesWrites Handover.leader)) ∧
        ∀ step ∈ later, .purge Handover.leader ∈ step.effects ↔
          step.reported? = some (.unreachable Handover.leader) :=
  System.purge_since_departure (by decide +kernel) (by decide +kernel)

/-- A refresh succeeds without a server that has left before, and nobody has
dropped its connections. -/
theorem System.kept_after_departure :
    ¬ ∀ (discovery : Discovery) (provider : Provider) (seeds : List Address)
        (selection : Selection) (inputs : List (Surroundings × Event))
        (last : Surroundings × Event) (address : Address),
      let system :=
        System.opened discovery provider (.ofRouters seeds) selection
      let final : Step := ⟨system.run inputs, last.1, last.2⟩
      let steps := system.trace (inputs ++ [last])
      (∃ place progress composition,
        final.Settles place progress (.ok composition)) →
      (∃ step ∈ steps, step.before.balancer.table.Serves address) →
      ¬ final.after.balancer.table.Serves address →
        ∃ departure later, Departure steps address departure later ∧
          ∃ step ∈ departure :: later, .purge address ∈ step.effects := by
  intro claim
  let final : Step := ⟨Handover.opened.run Handover.refused,
    Handover.farewell.1, Handover.farewell.2⟩
  have installed : final.installed? =
      some (Handover.composition [Handover.follower] [Handover.follower]) := by
    decide +kernel
  let steps := Handover.opened.trace (Handover.refused ++ [Handover.farewell])
  have never : steps.flatMap Step.purged = [] := by decide +kernel
  rcases Step.installed_iff.mp installed with ⟨place, progress, settles⟩
  rcases claim Handover.discovery .external [Handover.router]
      Handover.selection Handover.refused Handover.farewell Handover.leader
      ⟨place, progress, _, settles⟩ (by decide +kernel) (by decide +kernel)
    with ⟨departure, later, ⟨⟨earlier, split⟩, _, _⟩, step, member, purge⟩
  have whole : steps = earlier ++ departure :: later := split
  have present : step ∈ steps := by
    rw [whole]
    exact List.mem_append_right earlier member
  have purged : Handover.leader ∈ steps.flatMap Step.purged :=
    List.mem_flatMap.mpr ⟨step, present, Step.mem_purged.mpr purge⟩
  rw [never] at purged
  cases purged

end ClusterRouting
