import ClusterRouting.Proofs.Accounts
import ClusterRouting.Proofs.Legs
import ClusterRouting.Proofs.Purges
import Mathlib.Data.List.Perm.Subperm

/-! Retries: a call for a connection while nothing else happens.

Every server that cannot be reached leaves the table, and the call goes on with
those that are left. So the servers of the mode that are left are fewer each
time, and there are as many rounds as servers at most. -/

namespace ClusterRouting

theorem Roster.size_erase {roster : Roster} {address : Address}
    (member : address ∈ roster.toList) :
    (roster.erase address).size + 1 = roster.size := by
  have erased : (roster.erase address).toList =
      roster.toList.erase address := by
    rw [roster.nodup.erase_eq_filter]
    rfl
  have positive := List.length_pos_of_mem member
  simp only [size, erased, List.length_erase_of_mem member]
  omega

abbrev Pool := Address → Except Error Connection

def Pool.lacks (pool : Pool) (address : Address) : Bool :=
  match pool address with
  | .ok _ => false
  | .error error => error.isConnectivity

namespace System

def attend (pool : Pool) (caller : Nat) :
    List Surroundings → System → System × List Effect
  | [], system => (system, [])
  | surroundings :: rounds, system =>
      match system.callers[caller]? with
      | some (.connecting _ _ address) =>
          let (next, effects) :=
            system.step surroundings (.pooled caller (pool address))
          let (last, more) := attend pool caller rounds next
          (last, effects ++ more)
      | _ => (system, [])

/-- A call selects a server after some have failed it, and nothing else happens
until it has come to its end. -/
def acquireAlone (system : System) (pool : Pool) (caller : Nat)
    (mode : AccessMode) (failed : List Address) (first : Surroundings)
    (rounds : List Surroundings) : System × List Effect :=
  let (next, effects) := system.attempt first caller mode failed
  let (last, more) := attend pool caller rounds next
  (last, effects ++ more)

inductive Conclusion (pool : Pool) (mode : AccessMode) (balancer : Balancer)
    (moment? : Option Surroundings) : Option Address → Outcome → Prop
  | connects (address : Address) (connection : Connection)
      (listed : address ∈ (balancer.table.servers mode).toList)
      (replied : pool address = .ok connection) :
      Conclusion pool mode balancer moment? (some address)
        (.connected ⟨connection, mode⟩)
  | surrenders (address : Address) (error : Error)
      (listed : address ∈ (balancer.table.servers mode).toList)
      (replied : pool address = .error error)
      (connectivity : error.isConnectivity = false) :
      Conclusion pool mode balancer moment? (some address) (.failed error)
  | lacks (moment : Surroundings)
      (unlisted : (balancer.table.servers mode).toList = [])
      (found : moment? = some moment) :
      Conclusion pool mode balancer moment? none
        (.failed (balancer.noServer moment.now mode))

/-- Everything that such a call does: `lost` are the servers that fail it. -/
structure Retries (pool : Pool) (caller : Nat) (mode : AccessMode)
    (moments : List Surroundings) (system : System)
    (result : System × List Effect) (lost : List Address)
    (final? : Option Address) (outcome : Outcome) : Prop where
  nodup : lost.Nodup
  listed : ∀ address ∈ lost,
    address ∈ (system.balancer.table.servers mode).toList
  lacks : ∀ address ∈ lost, pool.lacks address = true
  asks : Effect.asks caller result.2 = lost ++ final?.toList
  purges : Effect.purges result.2 = lost
  last : ∃ selection, result.1 = system.setCaller
    { system.balancer with
      table := lost.foldl .forget system.balancer.table
      selection } caller (.done outcome)
  concludes : Conclusion pool mode result.1.balancer moments[lost.length]?
    final? outcome

variable {pool : Pool} {caller : Nat} {mode : AccessMode}
  {failed : List Address} {address : Address} {system : System}
  {surroundings : Surroundings} {rounds : List Surroundings}

theorem found_setCaller (there : caller < system.callers.length)
    (balancer : Balancer) (state : Caller) :
    (system.setCaller balancer caller state).callers[caller]? =
      some state := by
  simp [setCaller, there]

theorem attend_of_done {outcome : Outcome}
    (done : system.callers[caller]? = some (.done outcome)) :
    attend pool caller rounds system = (system, []) := by
  cases rounds with
  | nil => rfl
  | cons surroundings rounds => simp only [attend, done]

section Connecting

variable (connecting : system.callers[caller]? =
  some (.connecting mode failed address))
include connecting

theorem attend_of_ok {connection : Connection}
    (replied : pool address = .ok connection) :
    attend pool caller (surroundings :: rounds) system =
      (system.setCaller system.balancer caller
        (.done (.connected ⟨connection, mode⟩)), []) := by
  have bound := (List.getElem?_eq_some_iff.mp connecting).1
  simp only [attend, connecting, step, pooled, replied]
  rw [attend_of_done (found_setCaller bound _ _)]
  rfl

theorem attend_of_error {error : Error}
    (replied : pool address = .error error)
    (connectivity : error.isConnectivity = false) :
    attend pool caller (surroundings :: rounds) system =
      (system.setCaller system.balancer caller (.done (.failed error)),
        []) := by
  have bound := (List.getElem?_eq_some_iff.mp connecting).1
  simp only [attend, connecting, step, pooled, replied, connectivity,
    Bool.false_eq_true, if_false]
  rw [attend_of_done (found_setCaller bound _ _)]
  rfl

theorem attend_of_unreachable {error : Error}
    (replied : pool address = .error error)
    (connectivity : error.isConnectivity = true) :
    ∃ text,
      attend pool caller (surroundings :: rounds) system =
        let next := { system with balancer :=
          (system.balancer.report (.unreachable address)).1 }
        let again := next.acquireAlone pool caller mode (failed ++ [address])
          surroundings rounds
        (again.1, .note ⟨.error, text⟩ :: .purge address :: again.2) := by
  refine ⟨"Failed to obtain a connection towards address " ++
    address.describe ++ ": " ++ error.describe, ?_⟩
  simp only [attend, connecting, step, pooled, replied, connectivity, if_true]
  rfl

end Connecting

section Attempts

variable {first : Surroundings} {selection : Selection}
  {notices : List Notice} (there : caller < system.callers.length)
include there

theorem retries_of_lacks
    (unlisted : (system.balancer.table.servers mode).toList = [])
    (attempted : system.attempt first caller mode failed =
      (system.setCaller { system.balancer with selection } caller
        (.done (.failed (system.balancer.noServer first.now mode))),
        notices.map .note)) :
    Retries pool caller mode (first :: rounds) system
      (system.acquireAlone pool caller mode failed first rounds) [] none
      (.failed (system.balancer.noServer first.now mode)) := by
  simp only [acquireAlone, attempted]
  rw [attend_of_done (found_setCaller there _ _), List.append_nil]
  exact {
    nodup := List.nodup_nil
    listed := by simp
    lacks := by simp
    asks := by simp
    purges := by simp
    last := ⟨selection, rfl⟩
    concludes := .lacks first unlisted rfl }

variable {address : Address}
  (attempted : system.attempt first caller mode failed =
    (system.setCaller { system.balancer with selection } caller
      (.connecting mode failed address),
      notices.map .note ++ [.acquire caller address]))
include attempted

/-- The call ends with the answer to its first request. -/
theorem retries_of_final {moment : Surroundings} {outcome : Outcome}
    (attended : ∀ asking : System,
      asking.callers[caller]? = some (.connecting mode failed address) →
        attend pool caller (moment :: rounds) asking =
          (asking.setCaller asking.balancer caller (.done outcome), []))
    (concludes : Conclusion pool mode { system.balancer with selection }
      (some first) (some address) outcome) :
    Retries pool caller mode (first :: moment :: rounds) system
      (system.acquireAlone pool caller mode failed first (moment :: rounds))
      [] (some address) outcome := by
  simp only [acquireAlone, attempted]
  rw [attended _ (found_setCaller there _ _), List.append_nil]
  exact {
    nodup := List.nodup_nil
    listed := by simp
    lacks := by simp
    asks := by simp
    purges := by simp
    last := ⟨selection, by simp [setCaller]⟩
    concludes := concludes }

/-- A server that cannot be reached comes before those that fail the rest of
the call. -/
theorem retries_of_again {moment : Surroundings} {error : Error}
    {lost : List Address} {final? : Option Address} {outcome : Outcome}
    (listed : address ∈ (system.balancer.table.servers mode).toList)
    (replied : pool address = .error error)
    (connectivity : error.isConnectivity = true)
    (rest :
      let next : System :=
        ⟨{ system.balancer with
            table := system.balancer.table.forget address
            selection },
          system.callers.set caller (.connecting mode failed address)⟩
      Retries pool caller mode (moment :: rounds) next
        (next.acquireAlone pool caller mode (failed ++ [address]) moment
          rounds) lost final? outcome) :
    Retries pool caller mode (first :: moment :: rounds) system
      (system.acquireAlone pool caller mode failed first (moment :: rounds))
      (address :: lost) final? outcome := by
  -- The answer to the request is a report and the next attempt at once.
  have connecting := found_setCaller there
    { system.balancer with selection } (.connecting mode failed address)
  rcases @attend_of_unreachable pool _ _ _ _ _ moment rounds connecting _
    replied connectivity with ⟨text, attended⟩
  simp only [acquireAlone, attempted, attended]
  -- The table has forgotten the server, so the rest of the call avoids it.
  have unlost : address ∉ lost := by
    intro member
    have left := rest.listed address member
    rw [Table.servers_forget, Roster.mem_toList_erase] at left
    exact left.2 rfl
  exact {
    nodup := List.nodup_cons.mpr ⟨unlost, rest.nodup⟩
    listed := by
      intro other member
      rcases List.mem_cons.mp member with same | later
      · exact same ▸ listed
      · have left := rest.listed other later
        rw [Table.servers_forget, Roster.mem_toList_erase] at left
        exact left.1
    lacks := by
      intro other member
      rcases List.mem_cons.mp member with same | later
      · simp [same, Pool.lacks, replied, connectivity]
      · exact rest.lacks other later
    asks := by
      rw [Effect.asks_append, Effect.asks_append, Effect.asks_notes,
        Effect.asks_acquire]
      exact congrArg (address :: ·) rest.asks
    purges := by
      rw [Effect.purges_append, Effect.purges_append, Effect.purges_notes]
      exact congrArg (address :: ·) rest.purges
    last := by
      rcases rest.last with ⟨selection, last⟩
      exact ⟨selection, last.trans (by simp [setCaller])⟩
    concludes := rest.concludes }

end Attempts

/-- With a round for each server, the call comes to its end. -/
theorem exists_retries (there : caller < system.callers.length)
    (unlisted : ∀ address ∈ failed,
      address ∉ (system.balancer.table.servers mode).toList)
    (enough : (system.balancer.table.servers mode).size ≤ rounds.length)
    (first : Surroundings) :
    ∃ lost final? outcome, Retries pool caller mode (first :: rounds) system
      (system.acquireAlone pool caller mode failed first rounds) lost final?
        outcome := by
  -- The servers of the mode that are left are one fewer in each round.
  induction rounds generalizing system failed first with
  | nil =>
      have none : (system.balancer.table.servers mode).toList = [] :=
        List.length_eq_zero_iff.mp (Nat.le_zero.mp enough)
      cases system.attempt_cases first caller mode failed with
      | asks address selection notices listed unfailed attempted =>
          rw [none] at listed
          cases listed
      | lacks selection notices exhausted attempted =>
          exact ⟨_, _, _, retries_of_lacks there none attempted⟩
  | cons moment rounds induction =>
      cases system.attempt_cases first caller mode failed with
      | lacks selection notices exhausted attempted =>
          have none : (system.balancer.table.servers mode).toList = [] :=
            List.eq_nil_iff_forall_not_mem.mpr fun address listed =>
              unlisted address (exhausted address listed) listed
          exact ⟨_, _, _, retries_of_lacks there none attempted⟩
      | asks address selection notices listed unfailed attempted =>
          cases replied : pool address with
          | ok connection =>
              exact ⟨_, _, _, retries_of_final there attempted
                (fun _ connecting => attend_of_ok connecting replied)
                (.connects address connection listed replied)⟩
          | error error =>
              cases connectivity : error.isConnectivity with
              | false =>
                  exact ⟨_, _, _, retries_of_final there attempted
                    (fun _ connecting =>
                      attend_of_error connecting replied connectivity)
                    (.surrenders address error listed replied connectivity)⟩
              | true =>
                  have smaller := Roster.size_erase listed
                  simp only [List.length_cons] at enough
                  rcases @induction (failed ++ [address])
                    ⟨{ system.balancer with
                        table := system.balancer.table.forget address
                        selection },
                      system.callers.set caller
                        (.connecting mode failed address)⟩
                    (by simpa using there)
                    (by
                      intro other member
                      rw [Table.servers_forget, Roster.mem_toList_erase]
                      have := unlisted other
                      grind)
                    (by rw [Table.servers_forget]; omega) moment with
                    ⟨lost, final?, outcome, rest⟩
                  exact ⟨_, _, _, retries_of_again there attempted listed
                    replied connectivity rest⟩

end System

structure LoneCall (pool : Pool) (caller : Nat) (mode : AccessMode)
    (moments : List Surroundings) (system : System)
    (result : System × List Effect) : Prop where
  bounded : (Effect.asks caller result.2).length ≤
    (system.balancer.table.servers mode).size
  once : (Effect.asks caller result.2).Nodup
  listed : ∀ address ∈ Effect.asks caller result.2,
    address ∈ (system.balancer.table.servers mode).toList
  ends : ∃ outcome, result.1.callers[caller]? = some (.done outcome)
  /-- One server that can be had is enough, if no other one does more harm than
  being out of reach. -/
  connects :
    (∃ address ∈ (system.balancer.table.servers mode).toList,
      ∃ connection, pool address = .ok connection) →
    (∀ address ∈ (system.balancer.table.servers mode).toList, ∀ error,
      pool address = .error error → error.isConnectivity = true) →
    ∃ address connection,
      (Effect.asks caller result.2).getLast? = some address ∧
        pool address = .ok connection ∧
        result.1.callers[caller]? =
          some (.done (.connected ⟨connection, mode⟩))
  lacks :
    (∀ address ∈ (system.balancer.table.servers mode).toList,
      pool.lacks address = true) →
    (Effect.asks caller result.2).Perm
        (system.balancer.table.servers mode).toList ∧
      ∃ moment ∈ moments, result.1.callers[caller]? =
        some (.done (.failed (result.1.balancer.noServer moment.now mode)))
  passes : ∀ before address after error,
    Effect.asks caller result.2 = before ++ address :: after →
      pool address = .error error → error.isConnectivity = false →
        after = [] ∧
          result.1.callers[caller]? = some (.done (.failed error))
  expires : result.1.balancer.table.expires = system.balancer.table.expires
  members : ∀ role, (result.1.balancer.table.members role).toList =
    (system.balancer.table.members role).toList.filter
      (!((Effect.asks caller result.2).filter pool.lacks).contains ·)
  purges : Effect.purges result.2 =
    (Effect.asks caller result.2).filter pool.lacks
  rest : ∃ table selection outcome, result.1 =
    system.setCaller { system.balancer with table, selection } caller
      (.done outcome)

namespace System.Retries

variable {pool : Pool} {caller : Nat} {mode : AccessMode}
  {moments : List Surroundings} {system : System}
  {result : System × List Effect} {lost : List Address}
  {final? : Option Address} {outcome : Outcome}
  (retries : Retries pool caller mode moments system result lost final?
    outcome)
include retries

theorem table_eq : result.1.balancer.table =
    lost.foldl .forget system.balancer.table := by
  rcases retries.last with ⟨selection, last⟩
  rw [last]
  rfl

theorem mem_servers {address : Address} :
    address ∈ (result.1.balancer.table.servers mode).toList ↔
      address ∈ (system.balancer.table.servers mode).toList ∧
        address ∉ lost := by
  rw [retries.table_eq, ← Table.members_role, Table.members_forgetAll,
    Table.members_role]
  simp

/-- The server that is asked for last has not failed the call before. -/
theorem final_cases {address : Address} (final : final? = some address) :
    address ∈ (system.balancer.table.servers mode).toList ∧
      address ∉ lost ∧ pool.lacks address = false := by
  subst final
  cases retries.concludes with
  | connects _ connection listed replied =>
      have left := retries.mem_servers.mp listed
      exact ⟨left.1, left.2, by simp [Pool.lacks, replied]⟩
  | surrenders _ error listed replied connectivity =>
      have left := retries.mem_servers.mp listed
      exact ⟨left.1, left.2, by simp [Pool.lacks, replied, connectivity]⟩

theorem nodup_asks : (Effect.asks caller result.2).Nodup := by
  rw [retries.asks, List.nodup_append]
  refine ⟨retries.nodup, by cases final? <;> simp, ?_⟩
  intro address failed final member same
  subst same
  exact (retries.final_cases (Option.mem_toList.mp member)).2.1 failed

theorem listed_asks : ∀ address ∈ Effect.asks caller result.2,
    address ∈ (system.balancer.table.servers mode).toList := by
  intro address member
  rw [retries.asks, List.mem_append] at member
  rcases member with failed | final
  · exact retries.listed address failed
  · exact (retries.final_cases (Option.mem_toList.mp final)).1

theorem filter_asks : (Effect.asks caller result.2).filter pool.lacks =
    lost := by
  have reached : final?.toList.filter pool.lacks = [] := by
    apply List.filter_eq_nil_iff.mpr
    intro address member
    simp [(retries.final_cases (Option.mem_toList.mp member)).2.2]
  rw [retries.asks, List.filter_append, reached, List.append_nil]
  exact List.filter_eq_self.mpr retries.lacks

theorem done (there : caller < system.callers.length) :
    result.1.callers[caller]? = some (.done outcome) := by
  rcases retries.last with ⟨selection, last⟩
  rw [last]
  exact found_setCaller there _ _

theorem connects (there : caller < system.callers.length)
    (reachable : ∃ address ∈ (system.balancer.table.servers mode).toList,
      ∃ connection, pool address = .ok connection)
    (harmless : ∀ address ∈ (system.balancer.table.servers mode).toList,
      ∀ error, pool address = .error error → error.isConnectivity = true) :
    ∃ address connection,
      (Effect.asks caller result.2).getLast? = some address ∧
        pool address = .ok connection ∧
        result.1.callers[caller]? =
          some (.done (.connected ⟨connection, mode⟩)) := by
  have done := retries.done there
  have asks := retries.asks
  cases retries.concludes with
  | connects address connection listed replied =>
      exact ⟨address, connection, by simp [asks], replied, done⟩
  | surrenders address error listed replied connectivity =>
      have connects := harmless address (retries.mem_servers.mp listed).1 error
        replied
      rw [connectivity] at connects
      cases connects
  | lacks moment unlisted found =>
      rcases reachable with ⟨address, listed, connection, replied⟩
      have unlost : address ∉ lost := by
        intro failed
        have lacks := retries.lacks address failed
        simp [Pool.lacks, replied] at lacks
      have left := retries.mem_servers.mpr ⟨listed, unlost⟩
      rw [unlisted] at left
      cases left

theorem exhausts (there : caller < system.callers.length)
    (unreachable : ∀ address ∈ (system.balancer.table.servers mode).toList,
      pool.lacks address = true) :
    (Effect.asks caller result.2).Perm
        (system.balancer.table.servers mode).toList ∧
      ∃ moment ∈ moments, result.1.callers[caller]? =
        some (.done (.failed (result.1.balancer.noServer moment.now mode))) := by
  have done := retries.done there
  have none {address : Address} (final : final? = some address) : False := by
    have parts := retries.final_cases final
    rw [unreachable address parts.1] at parts
    cases parts.2.2
  have asks := retries.asks
  have within := retries.listed
  have mem_servers := @retries.mem_servers
  have concludes := retries.concludes
  cases concludes with
  | connects address connection listed replied => exact (none rfl).elim
  | surrenders address error listed replied connectivity =>
      exact (none rfl).elim
  | lacks moment unlisted found =>
      have all : (system.balancer.table.servers mode).toList ⊆ lost := by
        intro address listed
        apply Decidable.byContradiction
        intro unlost
        have left := mem_servers.mpr ⟨listed, unlost⟩
        rw [unlisted] at left
        cases left
      constructor
      · rw [asks, Option.toList_none, List.append_nil]
        exact (retries.nodup.subperm within).antisymm
          ((system.balancer.table.servers mode).nodup.subperm all)
      · exact ⟨moment, List.mem_of_getElem? found, done⟩

theorem passes (there : caller < system.callers.length)
    {before after : List Address} {address : Address} {error : Error}
    (split : Effect.asks caller result.2 = before ++ address :: after)
    (replied : pool address = .error error)
    (connectivity : error.isConnectivity = false) :
    after = [] ∧ result.1.callers[caller]? = some (.done (.failed error)) := by
  have done := retries.done there
  have unlost : address ∉ lost := by
    intro failed
    have lacks := retries.lacks address failed
    simp [Pool.lacks, replied, connectivity] at lacks
  have asks := retries.asks.symm.trans split
  have member : address ∈ lost ++ final?.toList := by simp [asks]
  have final : final? = some address :=
    Option.mem_toList.mp ((List.mem_append.mp member).resolve_left unlost)
  subst final
  constructor
  · rcases List.append_eq_append_iff.mp asks with
      ⟨others, _, equal⟩ | ⟨others, split, equal⟩
    · have lengths := congrArg List.length equal
      simp only [Option.toList_some, List.length_append, List.length_cons,
        List.length_nil] at lengths
      exact List.length_eq_zero_iff.mp (by omega)
    · cases others with
      | nil => simpa using equal
      | cons other others =>
          simp only [List.cons_append, List.cons.injEq] at equal
          simp [split, equal.1] at unlost
  · cases retries.concludes with
    | connects _ connection listed found =>
        rw [replied] at found
        cases found
    | surrenders _ other listed found connectivity =>
        rw [replied] at found
        cases found
        exact done

end System.Retries

/-- A call on its own ends after as many requests as there are servers at most,
gets a connection if it can, and leaves all servers out that it could not
reach. -/
theorem System.loneCall_acquire (pool : Pool) (caller : Nat)
    (mode : AccessMode) (first : Surroundings) (rounds : List Surroundings)
    (system : System) (there : caller < system.callers.length)
    (enough : (system.balancer.table.servers mode).size ≤ rounds.length) :
    LoneCall pool caller mode (first :: rounds) system
      (system.acquireAlone pool caller mode [] first rounds) := by
  rcases @exists_retries pool caller mode [] system rounds there (by simp)
    enough first with ⟨lost, final?, outcome, retries⟩
  exact {
    bounded :=
      (retries.nodup_asks.subperm retries.listed_asks).length_le
    once := retries.nodup_asks
    listed := retries.listed_asks
    ends := ⟨outcome, retries.done there⟩
    connects := retries.connects there
    lacks := retries.exhausts there
    passes := fun _ _ _ _ split replied connectivity =>
      retries.passes there split replied connectivity
    expires := by
      rw [retries.table_eq]
      exact (Table.Shrinks.forgetAll _ _).expires
    members := by
      intro role
      rw [retries.table_eq, Table.members_forgetAll, retries.filter_asks]
    purges := by rw [retries.purges, retries.filter_asks]
    rest := retries.last.elim fun selection last =>
      ⟨_, selection, outcome, last⟩ }

namespace Handover

/-- A call that waits for a refresh which has just listed two writers. -/
def elected : System :=
  opened.run (asked ++ [answered [] [leader, follower]])

def pool : Pool := fun address =>
  if address = leader then .error (.connection "refused")
  else .ok ⟨address, none, 0⟩

end Handover

theorem System.loneCall_acquire_elected :
    let moments := [Handover.surroundings, Handover.surroundings]
    let result := Handover.elected.acquireAlone Handover.pool 0 .write []
      Handover.surroundings moments
    Effect.asks 0 result.2 = [Handover.leader, Handover.follower] ∧
      LoneCall Handover.pool 0 .write (Handover.surroundings :: moments)
        Handover.elected result :=
  ⟨by decide +kernel,
    System.loneCall_acquire _ _ _ _ _ _ (by decide +kernel)
      (by decide +kernel)⟩

end ClusterRouting
