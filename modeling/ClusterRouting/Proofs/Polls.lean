import ClusterRouting.Selection
import Mathlib.Data.List.Rotate
import Mathlib.Order.Bounds.Defs

/-! Polls: whom the pool is asked about, and who has the fewest connections.

A poll goes round the list once, from the place where the counter of its mode
stands. The first of the lowest counts on this way wins. So the counter decides
among equals. -/

namespace ClusterRouting

def Dialogue.asked {Request : Type} {Reply : Request → Type} {Result : Type}
    (answer : (request : Request) → Reply request) :
    Dialogue Reply Result → List Request
  | .finish _ => []
  | .ask request resume => request :: asked answer (resume (answer request))

namespace Poll

variable {First Second : Type} (active : Address → Nat)

theorem result_bind (poll : Poll First) (next : First → Poll Second) :
    (poll >>= next).result active =
      (next (poll.result active)).result active := by
  induction poll with
  | finish result => rfl
  | ask address resume induction => exact induction (active address)

theorem asked_bind (poll : Poll First) (next : First → Poll Second) :
    (poll >>= next).asked active =
      poll.asked active ++ (next (poll.result active)).asked active := by
  induction poll with
  | finish result => rfl
  | ask address resume induction =>
      exact congrArg (address :: ·) (induction (active address))

end Poll

namespace Selection

/-- An address has fewer active connections than all that come before it, and
not more than any that comes after it. -/
def Foremost (active : Address → Nat) (addresses : List Address)
    (address : Address) : Prop :=
  ∃ before after, addresses = before ++ address :: after ∧
    (∀ other ∈ before, active address < active other) ∧
      ∀ other ∈ after, active address ≤ active other

namespace Foremost

variable {active : Address → Nat} {addresses : List Address}
  {first address : Address}

theorem mem (foremost : Foremost active addresses first) :
    first ∈ addresses := by
  rcases foremost with ⟨before, after, rfl, _⟩
  exact List.mem_append_right before List.mem_cons_self

theorem le (foremost : Foremost active addresses first)
    (member : address ∈ addresses) : active first ≤ active address := by
  rcases foremost with ⟨before, after, rfl, lower, lowest⟩
  rcases List.mem_append.mp member with early | late
  · exact Nat.le_of_lt (lower address early)
  · rcases List.mem_cons.mp late with rfl | late
    · exact Nat.le_refl _
    · exact lowest address late

/-- An address that is met with fewer connections takes the place. -/
theorem replace (foremost : Foremost active addresses first)
    (fewer : active address < active first) :
    Foremost active (addresses ++ [address]) address := by
  refine ⟨addresses, [], rfl, ?_, by simp⟩
  intro other member
  exact Nat.lt_of_lt_of_le fewer (foremost.le member)

theorem keep (foremost : Foremost active addresses first)
    (enough : active first ≤ active address) :
    Foremost active (addresses ++ [address]) first := by
  rcases foremost with ⟨before, after, rfl, lower, lowest⟩
  refine ⟨before, after ++ [address], by simp, lower, ?_⟩
  intro other member
  rcases List.mem_append.mp member with late | last
  · exact lowest other late
  · exact List.mem_singleton.mp last ▸ enough

end Foremost

variable (active : Address → Nat)

theorem asked_least (best : Address × Nat) (addresses : List Address) :
    (least best addresses).asked active = addresses := by
  induction addresses generalizing best with
  | nil => rfl
  | cons address rest induction => exact congrArg (address :: ·) (induction _)

theorem result_least_cons (best : Address × Nat) (address : Address)
    (rest : List Address) :
    (least best (address :: rest)).result active =
      (least (if active address < best.2 then (address, active address)
        else best) rest).result active :=
  rfl

/-- What was met before has a foremost address, and so has the whole. -/
theorem foremost_least {met : List Address} {best : Address}
    (foremost : Foremost active met best) (rest : List Address) :
    ∃ first, Foremost active (met ++ rest) first ∧
      (least (best, active best) rest).result active =
        (first, active first) := by
  induction rest generalizing met best with
  | nil => exact ⟨best, by rwa [List.append_nil], rfl⟩
  | cons address rest induction =>
      rw [result_least_cons, List.append_cons]
      split
      · rename_i fewer
        exact induction (foremost.replace fewer)
      · rename_i enough
        exact induction (foremost.keep (Nat.le_of_not_lt enough))

variable (selection : Selection) (mode : AccessMode)
  {addresses : List Address}

def start : Nat :=
  (selection.rotation mode).count.toNat

theorem turn_eq_rotate (addresses : List Address) :
    turn (selection.start mode % addresses.length) addresses =
      addresses.rotate (selection.start mode) :=
  List.rotate_eq_drop_append_take_mod.symm

theorem pollLeastConnected_nil :
    selection.pollLeastConnected mode [] =
      .finish (selection.pickNone mode) := by
  rw [pollLeastConnected]
  simp only [turn, List.drop_nil, List.take_nil, List.append_nil]
  rfl

def rotated : Rotation :=
  ⟨(selection.rotation mode).count + 1⟩

@[simp] theorem rotation_setRotation (rotation : Rotation) :
    (selection.setRotation mode rotation).rotation mode = rotation := by
  cases mode <;> rfl

theorem rotation_setRotation_of_ne {other : AccessMode}
    (different : other ≠ mode) (rotation : Rotation) :
    (selection.setRotation mode rotation).rotation other =
      selection.rotation other := by
  cases mode with
  | read =>
      cases other with
      | read => exact absurd rfl different
      | write => rfl
  | write =>
      cases other with
      | read => rfl
      | write => exact absurd rfl different

@[simp] theorem policy_setRotation (rotation : Rotation) :
    (selection.setRotation mode rotation).policy = selection.policy := by
  cases mode <;> rfl

theorem pollLeastConnected_of_rotate {first : Address} {rest : List Address}
    (turned : addresses.rotate (selection.start mode) = first :: rest) :
    selection.pollLeastConnected mode addresses = (do
      let count ← Poll.active first
      let best ← least (first, count) rest
      return selection.pickCounted mode (selection.rotated mode) best) := by
  rw [← turn_eq_rotate, start] at turned
  rw [pollLeastConnected, Rotation.next]
  simp only [turned]
  rfl

theorem asked_pollLeastConnected (addresses : List Address) :
    (selection.pollLeastConnected mode addresses).asked active =
      addresses.rotate (selection.start mode) := by
  cases turned : addresses.rotate (selection.start mode) with
  | nil =>
      rw [List.rotate_eq_nil_iff.mp turned, pollLeastConnected_nil]
      rfl
  | cons first rest =>
      rw [selection.pollLeastConnected_of_rotate mode turned, Poll.asked_bind,
        Poll.asked_bind, asked_least]
      exact congrArg (first :: ·) (List.append_nil rest)

theorem exists_foremost (nonempty : addresses ≠ []) :
    ∃ first,
      Foremost active (addresses.rotate (selection.start mode)) first ∧
        (selection.pollLeastConnected mode addresses).result active =
          selection.pickCounted mode (selection.rotated mode)
            (first, active first) := by
  cases turned : addresses.rotate (selection.start mode) with
  | nil => exact absurd (List.rotate_eq_nil_iff.mp turned) nonempty
  | cons first rest =>
      have alone : Foremost active [first] first :=
        ⟨[], [], rfl, by simp, by simp⟩
      rcases foremost_least active alone rest with ⟨best, foremost, result⟩
      refine ⟨best, foremost, ?_⟩
      rw [selection.pollLeastConnected_of_rotate mode turned, Poll.result_bind,
        Poll.result_bind]
      exact congrArg (selection.pickCounted mode (selection.rotated mode)) result

def place (length offset : Nat) : Nat :=
  (selection.start mode + offset) % length

def ahead (addresses : List Address) (offset : Nat) : Option Address :=
  addresses[selection.place mode addresses.length offset]?

def LowestAt (addresses : List Address) (offset : Nat) : Prop :=
  ∃ address, selection.ahead mode addresses offset = some address ∧
    ∀ other ∈ addresses, active address ≤ active other

theorem ahead_eq {offset : Nat} (bound : offset < addresses.length) :
    selection.ahead mode addresses offset =
      (addresses.rotate (selection.start mode))[offset]? := by
  rw [ahead, place, List.getElem?_rotate bound, Nat.add_comm]

theorem map_ahead (addresses : List Address) :
    (List.range addresses.length).map (selection.ahead mode addresses) =
      (addresses.rotate (selection.start mode)).map some := by
  apply List.ext_getElem
  · simp
  · intro offset bound bound'
    rw [List.length_map, List.length_range] at bound
    rw [List.getElem_map, List.getElem_range, ahead_eq _ _ bound,
      List.getElem_map, List.getElem?_eq_getElem]

theorem map_place (length : Nat) :
    (List.range length).map (selection.place mode length) =
      (List.range length).rotate (selection.start mode) := by
  apply List.ext_getElem
  · simp
  · intro offset bound bound'
    rw [List.getElem_map, List.getElem_range, List.getElem_rotate,
      List.getElem_range, List.length_range, place, Nat.add_comm]

theorem Foremost.isLeast {first : Address}
    (foremost :
      Foremost active (addresses.rotate (selection.start mode)) first) :
    ∃ offset,
      IsLeast {offset | offset < addresses.length ∧
        selection.LowestAt active mode addresses offset} offset ∧
      selection.ahead mode addresses offset = some first := by
  have low {other : Address} (member : other ∈ addresses) :
      active first ≤ active other :=
    foremost.le (List.mem_rotate.mpr member)
  have inside := List.mem_rotate.mp foremost.mem
  rcases foremost with ⟨before, after, round, lower, _⟩
  have bound : before.length < addresses.length := by
    rw [← List.length_rotate addresses (selection.start mode), round]
    simp
  have found : selection.ahead mode addresses before.length = some first := by
    rw [ahead_eq _ _ bound, round]
    simp
  refine ⟨before.length, ⟨⟨bound, first, found, fun _ => low⟩, ?_⟩, found⟩
  -- Whoever is met earlier has more connections than the foremost address.
  rintro offset ⟨offsetBound, address, met, lowest⟩
  apply Nat.le_of_not_lt
  intro earlier
  rw [ahead_eq _ _ offsetBound, round,
    List.getElem?_append_left earlier] at met
  exact Nat.not_le_of_lt (lower address (List.mem_of_getElem? met))
    (lowest first inside)

structure ExactPoll (selection : Selection) (active : Address → Nat)
    (mode : AccessMode) (addresses asked : List Address)
    (pick : Pick) : Prop where
  nobody : addresses = [] →
    pick.address? = none ∧ pick.selection = selection ∧ asked = []
  asks : asked.map some =
    (List.range addresses.length).map (selection.ahead mode addresses)
  round : ((List.range addresses.length).map
    (selection.place mode addresses.length)).Perm
      (List.range addresses.length)
  picks : addresses ≠ [] → ∃ offset,
    IsLeast {offset | offset < addresses.length ∧
      selection.LowestAt active mode addresses offset} offset ∧
    pick.address? = selection.ahead mode addresses offset
  least : ∀ address, pick.address? = some address →
    ∀ other ∈ addresses, active address ≤ active other
  counts : addresses ≠ [] →
    pick.selection.start mode = (selection.start mode + 1) % UInt64.size
  others : ∀ other, other ≠ mode →
    pick.selection.rotation other = selection.rotation other
  policy : pick.selection.policy = selection.policy

/-- Every poll is exact, wherever the counters stand. -/
theorem exactPoll_pickLeastConnected (selection : Selection)
    (surroundings : Surroundings) (mode : AccessMode)
    (addresses : List Address) :
    ExactPoll selection surroundings.active mode addresses
      ((selection.pollLeastConnected mode addresses).asked
        surroundings.active)
      (selection.pickLeastConnected surroundings mode addresses) := by
  have asked :=
    selection.asked_pollLeastConnected surroundings.active mode addresses
  have round := selection.map_place mode addresses.length
  rcases eq_or_ne addresses [] with rfl | nonempty
  · rw [asked, pickLeastConnected, pollLeastConnected_nil]
    exact {
      nobody := fun _ => ⟨rfl, rfl, List.rotate_nil _⟩
      asks := by rw [map_ahead]
      round := .rfl
      picks := nofun
      least := nofun
      counts := nofun
      others := fun _ _ => rfl
      policy := rfl }
  · rcases selection.exists_foremost surroundings.active mode nonempty with
      ⟨first, foremost, result⟩
    rw [asked, pickLeastConnected, result]
    exact {
      nobody := fun empty => absurd empty nonempty
      asks := by rw [map_ahead]
      round := round ▸ List.rotate_perm _ _
      picks := by
        intro _
        rcases foremost.isLeast with ⟨offset, isLeast, found⟩
        exact ⟨offset, isLeast, found.symm⟩
      least := by
        rintro _ ⟨⟩ other member
        exact foremost.le (List.mem_rotate.mpr member)
      counts := by
        intro _
        rw [start, pickCounted, rotation_setRotation]
        exact UInt64.toNat_add _ _
      others := by
        intro other different
        exact rotation_setRotation_of_ne _ _ different _
      policy := policy_setRotation _ _ _ }

end Selection

end ClusterRouting
