import ClusterRouting.Proofs.Polls
import Mathlib.Algebra.Ring.Nat
import Mathlib.Logic.Function.Basic

/-! Loads: picks by the least connections keep the load even.

Each pick brings one more connection to an address that has no more than any
other. So the most loaded gets one only when all have equally many, and from
then on the least loaded is at most one behind. -/

namespace ClusterRouting

abbrev Load := Address → Nat

namespace Load

def largest (load : Load) (addresses : List Address) : Nat :=
  (addresses.map load).max?.getD 0

def smallest (load : Load) (addresses : List Address) : Nat :=
  (addresses.map load).min?.getD 0

def spread (load : Load) (addresses : List Address) : Nat :=
  load.largest addresses - load.smallest addresses

def total (load : Load) (addresses : List Address) : Nat :=
  (addresses.map load).sum

def gain (load : Load) (address : Address) : Load :=
  Function.update load address (load address + 1)

variable {load : Load} {addresses : List Address} {first address : Address}

@[simp] theorem gain_self : load.gain address address = load address + 1 :=
  Function.update_self ..

theorem gain_of_ne (different : first ≠ address) :
    load.gain address first = load first :=
  Function.update_of_ne different ..

theorem le_gain : load first ≤ load.gain address first := by
  rcases eq_or_ne first address with rfl | different
  · simp
  · rw [gain_of_ne different]

theorem le_largest (member : address ∈ addresses) :
    load address ≤ load.largest addresses :=
  List.le_max?_getD_of_mem (List.mem_map_of_mem member)

theorem smallest_le (member : address ∈ addresses) :
    load.smallest addresses ≤ load address :=
  List.min?_getD_le_of_mem (List.mem_map_of_mem member)

theorem exists_largest (load : Load) (nonempty : addresses ≠ []) :
    ∃ first ∈ addresses, load first = load.largest addresses := by
  have mapped : addresses.map load ≠ [] := mt List.map_eq_nil_iff.mp nonempty
  rcases List.mem_map.mp (List.max_mem mapped) with ⟨first, member, same⟩
  refine ⟨first, member, ?_⟩
  rw [largest, List.max?_eq_some_max mapped, Option.getD_some, same]

theorem exists_smallest (load : Load) (nonempty : addresses ≠ []) :
    ∃ first ∈ addresses, load first = load.smallest addresses := by
  have mapped : addresses.map load ≠ [] := mt List.map_eq_nil_iff.mp nonempty
  rcases List.mem_map.mp (List.min_mem mapped) with ⟨first, member, same⟩
  refine ⟨first, member, ?_⟩
  rw [smallest, List.min?_eq_some_min mapped, Option.getD_some, same]

theorem spread_le_iff {bound : Nat} :
    load.spread addresses ≤ bound ↔
      ∀ first ∈ addresses, ∀ second ∈ addresses,
        load first ≤ load second + bound := by
  rw [spread]
  constructor
  · intro bounded first firstMember second secondMember
    have most : load first ≤ load.largest addresses := le_largest firstMember
    have least : load.smallest addresses ≤ load second :=
      smallest_le secondMember
    omega
  · intro close
    rcases eq_or_ne addresses [] with rfl | nonempty
    · exact Nat.zero_le bound
    · rcases load.exists_largest nonempty with ⟨first, firstMember, most⟩
      rcases load.exists_smallest nonempty with ⟨second, secondMember, least⟩
      have close := close first firstMember second secondMember
      omega

/-- Whoever has no more than any other may get one more. -/
theorem spread_gain_le
    (lowest : ∀ other ∈ addresses, load address ≤ load other) :
    (load.gain address).spread addresses ≤
      max 1 (load.spread addresses) := by
  have close := spread_le_iff.mp (Nat.le_refl (load.spread addresses))
  rw [spread_le_iff]
  intro first firstMember second secondMember
  have grown : load second ≤ load.gain address second := le_gain
  rcases eq_or_ne first address with rfl | different
  · -- It was no higher than the other one, so it is at most one ahead now.
    have low := lowest second secondMember
    rw [gain_self]
    omega
  · have close := close first firstMember second secondMember
    rw [gain_of_ne different]
    omega

theorem total_gain_of_not_mem (load : Load) (absent : address ∉ addresses) :
    (load.gain address).total addresses = load.total addresses := by
  have same : addresses.map (load.gain address) = addresses.map load := by
    apply List.map_congr_left
    intro other member
    exact gain_of_ne fun same => absent (same ▸ member)
  rw [total, same, total]

theorem total_gain (distinct : addresses.Nodup)
    (member : address ∈ addresses) :
    (load.gain address).total addresses = load.total addresses + 1 := by
  rcases List.append_of_mem member with ⟨before, after, rfl⟩
  rw [List.nodup_middle, List.nodup_cons] at distinct
  have others := load.total_gain_of_not_mem distinct.1
  simp only [total, List.map_append, List.map_cons, List.sum_append,
    List.sum_cons, gain_self] at others ⊢
  omega

end Load

/-- A pool that gets no connection back, and the selection that asks it. -/
structure Intake where
  selection : Selection
  load : Load

namespace Intake

def take (addresses : List Address) (intake : Intake) (mode : AccessMode) :
    Intake :=
  let poll := intake.selection.pollLeastConnected mode addresses
  let pick := poll.result intake.load
  match pick.address? with
  | some address => ⟨pick.selection, intake.load.gain address⟩
  | none => ⟨pick.selection, intake.load⟩

def takeAll (addresses : List Address) (intake : Intake)
    (modes : List AccessMode) : Intake :=
  modes.foldl (take addresses) intake

variable (intake : Intake) {addresses : List Address} (mode : AccessMode)

theorem take_nil : (intake.take [] mode).load = intake.load := by
  rw [take, Selection.pollLeastConnected_nil]
  rfl

theorem exists_gain (nonempty : addresses ≠ []) :
    ∃ first ∈ addresses,
      (∀ other ∈ addresses, intake.load first ≤ intake.load other) ∧
        (intake.take addresses mode).load = intake.load.gain first := by
  rcases intake.selection.exists_foremost intake.load mode nonempty with
    ⟨first, foremost, result⟩
  refine ⟨first, List.mem_rotate.mp foremost.mem, ?_, ?_⟩
  · intro other member
    exact foremost.le (List.mem_rotate.mpr member)
  · rw [take, result]
    rfl

theorem spread_take_le (addresses : List Address) (intake : Intake)
    (mode : AccessMode) :
    (intake.take addresses mode).load.spread addresses ≤
      max 1 (intake.load.spread addresses) := by
  rcases eq_or_ne addresses [] with rfl | nonempty
  · rw [take_nil]
    exact Nat.le_max_right ..
  · rcases intake.exists_gain mode nonempty with ⟨first, _, lowest, gained⟩
    rw [gained]
    exact Load.spread_gain_le lowest

theorem spread_takeAll_le (addresses : List Address) (intake : Intake)
    (modes : List AccessMode) :
    (intake.takeAll addresses modes).load.spread addresses ≤
      max 1 (intake.load.spread addresses) := by
  induction modes generalizing intake with
  | nil => exact Nat.le_max_right ..
  | cons mode rest induction =>
      have first := spread_take_le addresses intake mode
      have later := induction (intake.take addresses mode)
      change ((intake.take addresses mode).takeAll addresses rest).load.spread
        addresses ≤ _
      omega

theorem total_takeAll (nonempty : addresses ≠ [])
    (distinct : addresses.Nodup) (modes : List AccessMode) :
    (intake.takeAll addresses modes).load.total addresses =
      intake.load.total addresses + modes.length := by
  induction modes generalizing intake with
  | nil => rfl
  | cons mode rest induction =>
      rcases intake.exists_gain mode nonempty with ⟨first, member, _, gained⟩
      have later := induction (intake.take addresses mode)
      rw [gained, Load.total_gain distinct member] at later
      change ((intake.take addresses mode).takeAll addresses rest).load.total
        addresses = _
      rw [later, List.length_cons]
      omega

structure EvenLoad (addresses : List Address) (intake : Intake)
    (modes : List AccessMode) : Prop where
  bounded : (intake.takeAll addresses modes).load.spread addresses ≤
    max 1 (intake.load.spread addresses)
  settled : (intake.takeAll addresses modes).load.spread addresses ≤ 1 →
    ∀ later, (intake.takeAll addresses (modes ++ later)).load.spread
      addresses ≤ 1
  total : addresses ≠ [] → addresses.Nodup →
    (intake.takeAll addresses modes).load.total addresses =
      intake.load.total addresses + modes.length

theorem evenLoad_takeAll (addresses : List Address) (intake : Intake)
    (modes : List AccessMode) : EvenLoad addresses intake modes where
  bounded := spread_takeAll_le addresses intake modes
  settled := by
    intro even later
    have further :=
      spread_takeAll_le addresses (intake.takeAll addresses modes) later
    rw [takeAll, List.foldl_append]
    exact Nat.le_trans further (Nat.max_le.mpr ⟨Nat.le_refl 1, even⟩)
  total := fun nonempty distinct => intake.total_takeAll nonempty distinct modes

end Intake

end ClusterRouting
