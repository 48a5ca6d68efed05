import ClusterRouting.Balancer
import ClusterRouting.Proofs.Polls

/-! Picks: whatever the policy, a pick is one of the servers to pick from. -/

namespace ClusterRouting

namespace Selection

variable {selection : Selection} {surroundings : Surroundings}
  {mode : AccessMode} {addresses : List Address} {address : Address}

theorem mem_of_pickLeastConnected
    (picked : (selection.pickLeastConnected surroundings mode
      addresses).address? = some address) : address ∈ addresses := by
  rcases eq_or_ne addresses [] with rfl | nonempty
  · rw [pickLeastConnected, pollLeastConnected_nil] at picked
    cases picked
  · rcases selection.exists_foremost surroundings.active mode nonempty with
      ⟨first, foremost, result⟩
    rw [pickLeastConnected, result] at picked
    cases picked
    exact List.mem_rotate.mp foremost.mem

theorem exists_found (nonempty : addresses ≠ [])
    (number : Nat) :
    ∃ address, addresses[number % addresses.length]? = some address := by
  have bound := Nat.mod_lt number (List.length_pos_iff.mpr nonempty)
  exact ⟨_, List.getElem?_eq_getElem bound⟩

theorem pickRoundRobin_nil :
    selection.pickRoundRobin mode [] = selection.pickNone mode :=
  rfl

theorem pickRoundRobin_of_found
    (found : addresses[selection.start mode % addresses.length]? =
      some address) :
    ∃ notices, selection.pickRoundRobin mode addresses =
      ⟨some address, selection.setRotation mode (selection.rotated mode),
        notices⟩ := by
  rw [start] at found
  simp only [pickRoundRobin, Rotation.next, found]
  exact ⟨_, rfl⟩

theorem mem_of_pickRoundRobin
    (picked : (selection.pickRoundRobin mode addresses).address? =
      some address) : address ∈ addresses := by
  unfold pickRoundRobin at picked
  simp only at picked
  split at picked
  · cases picked
  · rename_i found
    cases picked
    exact List.mem_of_getElem? found

theorem mem_of_pick
    (picked : (selection.pick surroundings mode addresses).address? =
      some address) : address ∈ addresses := by
  unfold pick at picked
  split at picked
  · exact mem_of_pickLeastConnected picked
  · exact mem_of_pickRoundRobin picked
  · exact List.mem_of_getElem? picked

/-- Whatever the policy, there is a pick unless there is nothing to pick
from. -/
theorem eq_nil_of_pick
    (missed : (selection.pick surroundings mode addresses).address? = none) :
    addresses = [] := by
  apply Decidable.not_not.mp
  intro nonempty
  unfold pick at missed
  split at missed
  · rcases selection.exists_foremost surroundings.active mode nonempty with
      ⟨first, foremost, result⟩
    rw [pickLeastConnected, result] at missed
    cases missed
  · rcases exists_found nonempty (selection.start mode) with ⟨_, found⟩
    rcases pickRoundRobin_of_found found with ⟨notices, picked⟩
    rw [picked] at missed
    cases missed
  · rcases exists_found nonempty surroundings.draw with ⟨_, found⟩
    exact Option.some_ne_none _ (found.symm.trans missed)

end Selection

namespace Balancer

/-- A server that is picked serves the mode and has not failed the caller. -/
theorem mem_of_select {balancer next : Balancer}
    {surroundings : Surroundings} {mode : AccessMode} {failed : List Address}
    {effects : List Effect} {address : Address}
    (picked : balancer.select surroundings mode failed =
      (next, effects, some address)) :
    address ∈ (balancer.table.servers mode).toList ∧ address ∉ failed := by
  have chosen := Selection.mem_of_pick
    (congrArg (fun outcome => outcome.2.2) picked)
  simpa [candidates] using chosen

/-- If no server is picked, all that serve the mode have failed the caller. -/
theorem mem_failed_of_select {balancer next : Balancer}
    {surroundings : Surroundings} {mode : AccessMode} {failed : List Address}
    {effects : List Effect}
    (missed : balancer.select surroundings mode failed =
      (next, effects, none)) {address : Address}
    (listed : address ∈ (balancer.table.servers mode).toList) :
    address ∈ failed := by
  have none := Selection.eq_nil_of_pick
    (congrArg (fun outcome => outcome.2.2) missed)
  simp only [candidates, List.filter_eq_nil_iff] at none
  simpa using none address listed

end Balancer

end ClusterRouting
