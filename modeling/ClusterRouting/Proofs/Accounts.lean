import ClusterRouting.Proofs.Deeds

/-! Accounts: what a routing table has to show after all that was done to it.

The members of a role are those of the last composition that was installed,
less those that were taken out of the role since. The members of earlier
compositions do not come into it. -/

namespace ClusterRouting

def Table.members (table : Table) : Role → Roster
  | .route => table.routers
  | .write => table.writers
  | .read => table.readers

def AccessMode.role : AccessMode → Role
  | .read => .read
  | .write => .write

theorem Table.members_role (table : Table) (mode : AccessMode) :
    table.members mode.role = table.servers mode := by
  cases mode <;> rfl

def Composition.members (composition : Composition) : Role → Roster
  | .route => composition.routers
  | .write => composition.writers
  | .read => composition.readers

inductive Deed where
  | install (composition : Composition)
  | forget (address : Address)
  | report (report : Report)

def Deed.Removes (role : Role) (address : Address) : Deed → Prop
  | .install _ => False
  | .forget other | .report (.unreachable other) => other = address
  | .report (.refusesWrites other) => role = .write ∧ other = address

def Table.apply (table : Table) : Deed → Table
  | .install composition => table.update composition
  | .forget address => table.forget address
  | .report report => table.report report

structure Account where
  composition : Composition
  since : List Deed

namespace Account

def ofRouters (seeds : List Address) : Account :=
  ⟨.ofLists 0 [] [] seeds, []⟩

def enter (account : Account) : Deed → Account
  | .install composition => ⟨composition, []⟩
  | deed => { account with since := account.since ++ [deed] }

def enterAll (account : Account) (deeds : List Deed) : Account :=
  deeds.foldl enter account

structure Describes (account : Account) (table : Table) : Prop where
  expires : table.expires = account.composition.expires
  members : ∀ role address,
    address ∈ (table.members role).toList ↔
      address ∈ (account.composition.members role).toList ∧
        ∀ deed ∈ account.since, ¬ deed.Removes role address

theorem describes_ofRouters (seeds : List Address) :
    (ofRouters seeds).Describes (.ofRouters seeds) where
  expires := rfl
  members := by
    intro role address
    cases role <;>
      simp [ofRouters, Table.ofRouters, Table.members, Composition.members,
        Composition.ofLists, Roster.ofList]

end Account

namespace Table

variable {table : Table} {role : Role} {address : Address}

theorem mem_members_update {composition : Composition} :
    address ∈ ((table.update composition).members role).toList ↔
      address ∈ (composition.members role).toList := by
  cases role <;> simp [update, members, Composition.members]

theorem mem_members_forget {other : Address} :
    address ∈ ((table.forget other).members role).toList ↔
      address ∈ (table.members role).toList ∧ other ≠ address := by
  cases role <;> simp [forget, members, ne_comm]

theorem members_forget (table : Table) (address : Address) (role : Role) :
    ((table.forget address).members role).toList =
      (table.members role).toList.filter (· != address) := by
  cases role <;> rfl

/-- Those that stay keep their order. -/
theorem members_forgetAll (table : Table) (addresses : List Address)
    (role : Role) :
    ((addresses.foldl forget table).members role).toList =
      (table.members role).toList.filter (!addresses.contains ·) := by
  induction addresses generalizing table with
  | nil => exact (List.filter_eq_self.mpr (by simp)).symm
  | cons address rest induction =>
      rw [List.foldl_cons, induction, members_forget, List.filter_filter]
      apply List.filter_congr
      intro member _
      by_cases same : member = address <;> simp [same]

theorem servers_forget (table : Table) (address : Address)
    (mode : AccessMode) :
    (table.forget address).servers mode =
      (table.servers mode).erase address := by
  cases mode <;> rfl

theorem mem_members_removeWriter {other : Address} :
    address ∈ ((table.removeWriter other).members role).toList ↔
      address ∈ (table.members role).toList ∧
        ¬ (role = .write ∧ other = address) := by
  cases role <;> simp [removeWriter, members, eq_comm]

end Table

namespace Account

variable {account : Account} {table : Table}

theorem describes_since (describes : account.Describes table) {deed : Deed}
    {after : Table} (expires : after.expires = table.expires)
    (members : ∀ role address, address ∈ (after.members role).toList ↔
      address ∈ (table.members role).toList ∧ ¬ deed.Removes role address) :
    Describes { account with since := account.since ++ [deed] } after where
  expires := expires.trans describes.expires
  members := by
    intro role address
    rw [members, describes.members, and_assoc]
    simp only [List.mem_append, List.mem_singleton, or_imp, forall_and,
      forall_eq]

theorem describes_enter (describes : account.Describes table) (deed : Deed) :
    (account.enter deed).Describes (table.apply deed) := by
  cases deed with
  | install composition =>
      exact ⟨rfl, fun role address => by
        simp [enter, Table.apply, Table.mem_members_update]⟩
  | forget address =>
      exact describes_since describes rfl fun _ _ =>
        Table.mem_members_forget
  | report report =>
      cases report with
      | unreachable address =>
          exact describes_since describes rfl fun _ _ =>
            Table.mem_members_forget
      | refusesWrites address =>
          exact describes_since describes rfl fun _ _ =>
            Table.mem_members_removeWriter

theorem describes_enterAll (describes : account.Describes table)
    (deeds : List Deed) :
    (account.enterAll deeds).Describes (deeds.foldl Table.apply table) := by
  induction deeds generalizing account table with
  | nil => exact describes
  | cons deed rest induction =>
      exact induction (describes_enter describes deed)

/-- Either nothing was installed, or the last of what was installed counts. -/
theorem enterAll_cases (account : Account) (deeds : List Deed) :
    .install (account.enterAll deeds).composition ∈ deeds ∨
      account.enterAll deeds =
        ⟨account.composition, account.since ++ deeds⟩ := by
  induction deeds generalizing account with
  | nil => exact .inr (by simp [enterAll])
  | cons deed rest induction =>
      rcases induction (account.enter deed) with member | kept
      · exact .inl (List.mem_cons_of_mem _ member)
      · have all : account.enterAll (deed :: rest) =
            (account.enter deed).enterAll rest := rfl
        rw [all, kept]
        cases deed with
        | install composition => exact .inl List.mem_cons_self
        | forget address => exact .inr (by simp [enter])
        | report report => exact .inr (by simp [enter])

/-- An address that was taken out comes back only with a composition. -/
theorem installed_of_removed {earlier later : List Deed} {removal : Deed}
    {role : Role} {address : Address}
    (describes : (account.enterAll (earlier ++ removal :: later)).Describes
      table)
    (removes : removal.Removes role address)
    (member : address ∈ (table.members role).toList) :
    ∃ composition, .install composition ∈ later ∧
      address ∈ (composition.members role).toList := by
  have parts := (describes.members role address).mp member
  have split : account.enterAll (earlier ++ removal :: later) =
      ((account.enterAll earlier).enter removal).enterAll later := by
    simp [enterAll]
  -- The removal is still on record unless something was installed after it.
  rw [split] at parts
  rcases ((account.enterAll earlier).enter removal).enterAll_cases later with
    installed | kept
  · exact ⟨_, installed, parts.1⟩
  · have since : removal ∈
        (((account.enterAll earlier).enter removal).enterAll later).since := by
      rw [kept]
      cases removal with
      | install composition => exact removes.elim
      | forget other => simp [enter]
      | report report => simp [enter]
    exact absurd removes (parts.2 removal since)

end Account

namespace Step

def deeds (step : Step) : List Deed :=
  step.reported?.toList.map .report ++ step.forgotten.map .forget ++
    step.installed?.toList.map .install

variable {step : Step}

/-- Nothing else changes the routing table. -/
theorem after_table (step : Step) :
    step.after.balancer.table =
      step.deeds.foldl Table.apply step.before.balancer.table := by
  cases step.change with
  | searches unreported uninstalled table purged =>
      rw [table, deeds, unreported, uninstalled, searched]
      simp [List.foldl_map, Table.apply]
  | reports report reported unsearched uninstalled table purged =>
      rw [table, deeds, reported, unsearched, uninstalled]
      rfl
  | installs place progress composition settles unreported installed table
      purged =>
      rw [table, deeds, unreported, installed, searched]
      simp [List.foldl_map, Table.apply]

theorem mem_deeds_install {composition : Composition} :
    .install composition ∈ step.deeds ↔
      ∃ place progress, step.Settles place progress (.ok composition) := by
  rw [← installed_iff]
  simp [deeds]

end Step

/-! ## Tables that only lose members -/

structure Table.Shrinks (table later : Table) : Prop where
  expires : later.expires = table.expires
  members : ∀ role, (later.members role).toList.Sublist
    (table.members role).toList

namespace Table.Shrinks

theorem refl (table : Table) : table.Shrinks table :=
  ⟨rfl, fun _ => List.Sublist.refl _⟩

theorem trans {first second third : Table} (left : first.Shrinks second)
    (right : second.Shrinks third) : first.Shrinks third :=
  ⟨right.expires.trans left.expires,
    fun role => (right.members role).trans (left.members role)⟩

theorem forget (table : Table) (address : Address) :
    table.Shrinks (table.forget address) where
  expires := rfl
  members := by
    intro role
    rw [members_forget]
    exact List.filter_sublist

theorem removeWriter (table : Table) (address : Address) :
    table.Shrinks (table.removeWriter address) where
  expires := rfl
  members := by
    intro role
    cases role with
    | route => exact List.Sublist.refl _
    | write => exact List.filter_sublist
    | read => exact List.Sublist.refl _

theorem report (table : Table) (report : Report) :
    table.Shrinks (table.report report) := by
  cases report with
  | unreachable address => exact forget table address
  | refusesWrites address => exact removeWriter table address

theorem forgetAll (table : Table) (addresses : List Address) :
    table.Shrinks (addresses.foldl Table.forget table) := by
  induction addresses generalizing table with
  | nil => exact refl table
  | cons address rest induction =>
      exact (forget table address).trans (induction _)

end Table.Shrinks

def Step.Unsuccessful (step : Step) : Prop :=
  ∀ place progress composition,
    ¬ step.Settles place progress (.ok composition)

theorem Step.shrinks {step : Step} (unsuccessful : step.Unsuccessful) :
    step.before.balancer.table.Shrinks step.after.balancer.table := by
  cases step.change with
  | searches unreported uninstalled table purged =>
      rw [table]
      exact .forgetAll _ _
  | reports report reported unsearched uninstalled table purged =>
      rw [table]
      exact .report _ _
  | installs place progress composition settles =>
      exact absurd settles (unsuccessful place progress composition)

namespace System

theorem shrinks_run {system : System} {inputs : List (Surroundings × Event)}
    (unsuccessful : ∀ step ∈ system.trace inputs, step.Unsuccessful) :
    system.balancer.table.Shrinks (system.run inputs).balancer.table := by
  induction inputs generalizing system with
  | nil => exact .refl _
  | cons input rest induction =>
      have first := unsuccessful _ List.mem_cons_self
      exact (Step.shrinks first).trans
        (induction fun step member =>
          unsuccessful step (List.mem_cons_of_mem _ member))

theorem run_table (system : System) (inputs : List (Surroundings × Event)) :
    (system.run inputs).balancer.table =
      ((system.trace inputs).flatMap Step.deeds).foldl Table.apply
        system.balancer.table := by
  induction inputs generalizing system with
  | nil => rfl
  | cons input rest induction =>
      have first := Step.after_table ⟨system, input.1, input.2⟩
      simp only [run, trace, List.flatMap_cons, List.foldl_append]
      rw [induction, first]

end System

/-- What holds of the routing table after the steps of a run, if it never shows
a mixture of compositions or members that were taken out. -/
structure FaithfulTable (seeds : List Address) (steps : List Step)
    (last : System) : Prop where
  describes : ((Account.ofRouters seeds).enterAll
    (steps.flatMap Step.deeds)).Describes last.balancer.table
  nodup : ∀ role, (last.balancer.table.members role).toList.Nodup
  /-- An address that was taken out is back only after a refresh has succeeded
  with a composition that lists it. -/
  returns : ∀ earlier removal later role address,
    steps.flatMap Step.deeds = earlier ++ removal :: later →
      removal.Removes role address →
        address ∈ (last.balancer.table.members role).toList →
          ∃ composition, .install composition ∈ later ∧
            address ∈ (composition.members role).toList ∧
              ∃ step ∈ steps, ∃ place progress,
                step.Settles place progress (.ok composition)
  /-- Refreshes that fail or break down add nobody and leave the expiry. -/
  shrinks : ∀ earlier step later, steps = earlier ++ step :: later →
    (∀ other ∈ step :: later, other.Unsuccessful) →
      step.before.balancer.table.Shrinks last.balancer.table
  serves : ∀ step ∈ steps, ∀ caller address,
    .acquire caller address ∈ step.effects →
      ∃ mode, address ∈ (step.after.balancer.table.servers mode).toList

/-- The table is faithful in every run of a balancer that starts with some
routers, for any order of refreshes, failures and reports. -/
theorem System.faithfulTable_run (discovery : Discovery)
    (provider : Provider) (seeds : List Address) (selection : Selection)
    (inputs : List (Surroundings × Event)) :
    let system :=
      System.opened discovery provider (.ofRouters seeds) selection
    FaithfulTable seeds (system.trace inputs) (system.run inputs) := by
  intro system
  have describes : ((Account.ofRouters seeds).enterAll
      ((system.trace inputs).flatMap Step.deeds)).Describes
        (system.run inputs).balancer.table := by
    rw [run_table]
    exact Account.describes_enterAll (Account.describes_ofRouters seeds) _
  exact {
    describes := describes
    nodup := fun role =>
      ((system.run inputs).balancer.table.members role).nodup
    returns := by
      intro earlier removal later role address split removes member
      rw [split] at describes
      rcases Account.installed_of_removed describes removes member with
        ⟨composition, installed, listed⟩
      have somewhere : .install composition ∈
          (system.trace inputs).flatMap Step.deeds := by
        rw [split]
        simp [installed]
      rcases List.mem_flatMap.mp somewhere with ⟨step, present, done⟩
      exact ⟨composition, installed, listed, step, present,
        Step.mem_deeds_install.mp done⟩
    shrinks := by
      intro earlier step later split unsuccessful
      rcases trace_split split with ⟨first, second, rfl, rfl, rest⟩
      cases second with
      | nil => cases rest
      | cons input second =>
          have before : step.before = system.run first := by
            simp only [trace, List.cons.injEq] at rest
            rw [rest.1]
          rw [rest] at unsuccessful
          rw [before, run_append]
          exact shrinks_run unsuccessful
    serves := by
      intro step present caller address member
      rcases step.asks_of_acquire member with
        ⟨state, found, mode, failed, _, listed, _⟩
      exact ⟨mode, listed⟩ }

end ClusterRouting
