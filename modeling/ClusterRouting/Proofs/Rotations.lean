import ClusterRouting.Proofs.Picks
import Mathlib.Data.List.Count

/-! Rotations: how the picks for a mode go round.

A counter moves on with every pick for its mode, and with nothing else. So the
picks for a mode come in the order of the list, whoever is served in between.
This holds of the least connections too, as long as all have equally many. -/

namespace ClusterRouting

def Rotation.forward (rotation : Rotation) (picks : Nat) : Rotation :=
  ⟨rotation.count + .ofNat picks⟩

theorem Rotation.forward_zero (rotation : Rotation) :
    rotation.forward 0 = rotation :=
  congrArg Rotation.mk (UInt64.add_zero _)

theorem Rotation.forward_succ (rotation : Rotation) (picks : Nat) :
    rotation.forward (picks + 1) =
      forward ⟨rotation.count + 1⟩ picks := by
  rw [forward, Nat.add_comm, UInt64.ofNat_add, ← UInt64.add_assoc]
  rfl

theorem Rotation.toNat_forward {rotation : Rotation} {picks : Nat}
    (fits : rotation.count.toNat + picks < UInt64.size) :
    (rotation.forward picks).count.toNat = rotation.count.toNat + picks := by
  have small : picks < UInt64.size := by omega
  rw [forward, UInt64.toNat_add, UInt64.toNat_ofNat_of_lt' small]
  exact Nat.mod_eq_of_lt fits

structure Call where
  mode : AccessMode
  surroundings : Surroundings
  addresses : List Address

namespace Call

def Turns (mode : AccessMode) (call : Call) : Prop :=
  call.mode = mode ∧ call.addresses ≠ []

instance (mode : AccessMode) : DecidablePred (Turns mode) :=
  fun call => inferInstanceAs (Decidable (call.mode = mode ∧ call.addresses ≠ []))

def Level (call : Call) : Prop :=
  ∀ first ∈ call.addresses, ∀ second ∈ call.addresses,
    call.surroundings.active first = call.surroundings.active second

end Call

inductive Policy.Rotates (call : Call) : Policy → Prop
  | roundRobin : Rotates call .roundRobin
  | leastConnected (level : call.Level) : Rotates call .leastConnected

namespace Selection

def answer (selection : Selection) (call : Call) : Pick :=
  selection.pick call.surroundings call.mode call.addresses

def after (selection : Selection) : List Call → Selection
  | [] => selection
  | call :: rest => (selection.answer call).selection.after rest

def picks (mode : AccessMode) (selection : Selection) :
    List Call → List (Option Address)
  | [] => []
  | call :: rest =>
      let pick := selection.answer call
      let later := pick.selection.picks mode rest
      if call.Turns mode then pick.address? :: later else later

variable {selection : Selection} {mode : AccessMode} {call : Call}

/-- The counter of a mode moves with a pick for this mode, unless there is
nothing to pick from or chance decides. -/
theorem selection_answer (selection : Selection) (call : Call) :
    (selection.answer call).selection =
      if call.addresses = [] ∨ selection.policy = .random then selection
      else selection.setRotation call.mode (selection.rotated call.mode) := by
  rcases call with ⟨mode, surroundings, addresses⟩
  cases policy : selection.policy with
  | random => simp only [answer, pick, policy, pickRandom, or_true, if_true]
  | roundRobin =>
      simp only [answer, pick, policy, reduceCtorEq, or_false]
      split
      · rename_i empty
        rw [empty, pickRoundRobin_nil]
        rfl
      · rename_i nonempty
        rcases exists_found nonempty (selection.start mode) with ⟨_, found⟩
        rcases pickRoundRobin_of_found found with ⟨notices, picked⟩
        rw [picked]
  | leastConnected =>
      simp only [answer, pick, policy, reduceCtorEq, or_false]
      split
      · rename_i empty
        rw [empty, pickLeastConnected, pollLeastConnected_nil]
        rfl
      · rename_i nonempty
        rcases selection.exists_foremost surroundings.active mode nonempty with
          ⟨first, _, result⟩
        rw [pickLeastConnected, result]
        rfl

@[simp] theorem policy_answer (selection : Selection) (call : Call) :
    (selection.answer call).selection.policy = selection.policy := by
  rw [selection_answer]
  split
  · rfl
  · exact policy_setRotation _ _ _

theorem rotation_answer_of_not_turns (still : ¬ call.Turns mode) :
    (selection.answer call).selection.rotation mode =
      selection.rotation mode := by
  rw [selection_answer]
  split
  · rfl
  · rename_i turned
    rw [not_or] at turned
    apply rotation_setRotation_of_ne
    intro same
    exact still ⟨same.symm, turned.1⟩

theorem rotation_answer_of_turns (turns : call.Turns mode)
    (rotates : selection.policy.Rotates call) :
    (selection.answer call).selection.rotation mode =
      selection.rotated mode := by
  have counted : ¬ (call.addresses = [] ∨ selection.policy = .random) := by
    rintro (empty | random)
    · exact turns.2 empty
    · rw [random] at rotates
      cases rotates
  rw [selection_answer, if_neg counted, turns.1, rotation_setRotation]

/-- Among equals the first on the way round is foremost. -/
theorem Foremost.head {active : Address → Nat} {addresses : List Address}
    {first : Address} (foremost : Foremost active addresses first)
    (level : ∀ one ∈ addresses, ∀ other ∈ addresses,
      active one = active other) : addresses[0]? = some first := by
  have inside := foremost.mem
  rcases foremost with ⟨before, after, rfl, lower, _⟩
  cases before with
  | nil => rfl
  | cons head rest =>
      have member : head ∈ head :: rest := List.mem_cons_self
      have same := level first inside head (List.mem_append_left _ member)
      exact absurd same (Nat.ne_of_lt (lower head member))

theorem address_answer_of_turns (turns : call.Turns mode)
    (rotates : selection.policy.Rotates call) :
    (selection.answer call).address? =
      call.addresses[selection.start mode % call.addresses.length]? := by
  rcases turns with ⟨rfl, nonempty⟩
  cases policy : selection.policy with
  | random =>
      rw [policy] at rotates
      cases rotates
  | roundRobin =>
      rcases exists_found nonempty (selection.start call.mode) with ⟨_, found⟩
      rcases pickRoundRobin_of_found found with ⟨notices, picked⟩
      simp only [answer, pick, policy]
      rw [picked, found]
  | leastConnected =>
      rw [policy] at rotates
      rcases rotates with _ | level
      rcases selection.exists_foremost call.surroundings.active call.mode
        nonempty with ⟨first, foremost, result⟩
      simp only [answer, pick, policy]
      rw [pickLeastConnected, result]
      have turned := foremost.head fun one oneMember other otherMember =>
        level one (List.mem_rotate.mp oneMember) other
          (List.mem_rotate.mp otherMember)
      rw [List.getElem?_rotate (List.length_pos_iff.mpr nonempty),
        Nat.zero_add] at turned
      exact turned.symm

variable {addresses : List Address}

theorem picks_cons_of_turns (turns : call.Turns mode) (rest : List Call) :
    selection.picks mode (call :: rest) =
      (selection.answer call).address? ::
        (selection.answer call).selection.picks mode rest := by
  rw [picks, if_pos turns]

theorem picks_cons_of_not_turns (still : ¬ call.Turns mode)
    (rest : List Call) :
    selection.picks mode (call :: rest) =
      (selection.answer call).selection.picks mode rest := by
  rw [picks, if_neg still]

/-- The calls that turn a mode are served in order, and the others do not
matter to them. -/
theorem picks_eq (calls : List Call) (selection : Selection)
    (same : ∀ call ∈ calls, call.Turns mode → call.addresses = addresses)
    (rotates : ∀ call ∈ calls, call.Turns mode →
      selection.policy.Rotates call) :
    selection.picks mode calls =
      (List.range (calls.countP (·.Turns mode))).map fun number =>
        addresses[((selection.rotation mode).forward number).count.toNat %
          addresses.length]? := by
  induction calls generalizing selection with
  | nil => rfl
  | cons call rest induction =>
      rw [List.forall_mem_cons] at same rotates
      have later := induction (selection.answer call).selection same.2
        (by simpa only [policy_answer] using rotates.2)
      by_cases turns : call.Turns mode
      · -- The first number belongs to this call, the others have moved by one.
        rw [rotation_answer_of_turns turns (rotates.1 turns)] at later
        rw [picks_cons_of_turns turns, later,
          address_answer_of_turns turns (rotates.1 turns), same.1 turns,
          List.countP_cons_of_pos (by simpa using turns),
          List.range_succ_eq_map, List.map_cons, List.map_map,
          Rotation.forward_zero]
        congr 1
        apply List.map_congr_left
        intro number _
        rw [Function.comp_apply, Nat.succ_eq_add_one, Rotation.forward_succ]
        rfl
      · rw [rotation_answer_of_not_turns turns] at later
        rw [picks_cons_of_not_turns turns, later,
          List.countP_cons_of_neg (by simpa using turns)]

theorem policy_after (calls : List Call) (selection : Selection) :
    (selection.after calls).policy = selection.policy := by
  induction calls generalizing selection with
  | nil => rfl
  | cons call rest induction => rw [after, induction, policy_answer]

theorem after_append (earlier later : List Call) (selection : Selection) :
    selection.after (earlier ++ later) =
      (selection.after earlier).after later := by
  induction earlier generalizing selection with
  | nil => rfl
  | cons call rest induction => exact induction _

theorem rotation_after (calls : List Call) (selection : Selection)
    (rotates : ∀ call ∈ calls, call.Turns mode →
      selection.policy.Rotates call) :
    (selection.after calls).rotation mode =
      (selection.rotation mode).forward (calls.countP (·.Turns mode)) := by
  induction calls generalizing selection with
  | nil => exact (Rotation.forward_zero _).symm
  | cons call rest induction =>
      rw [List.forall_mem_cons] at rotates
      rw [after, induction _ (by simpa only [policy_answer] using rotates.2)]
      by_cases turns : call.Turns mode
      · rw [rotation_answer_of_turns turns (rotates.1 turns),
          List.countP_cons_of_pos (by simpa using turns),
          Rotation.forward_succ]
        rfl
      · rw [rotation_answer_of_not_turns turns,
          List.countP_cons_of_neg (by simpa using turns)]

/-- Calls that turn a mode as often as there are addresses, and each time with
the same addresses to pick from. The counter does not start again meanwhile. -/
structure Round (selection : Selection) (mode : AccessMode)
    (addresses : List Address) (calls : List Call) : Prop where
  distinct : addresses.Nodup
  same : ∀ call ∈ calls, call.Turns mode → call.addresses = addresses
  length : calls.countP (·.Turns mode) = addresses.length
  rotates : ∀ call ∈ calls, call.Turns mode → selection.policy.Rotates call
  fits : selection.start mode + addresses.length ≤ UInt64.size

structure FairRound (selection : Selection) (mode : AccessMode)
    (addresses : List Address) (calls : List Call) : Prop where
  cyclic : selection.picks mode calls =
    (addresses.rotate (selection.start mode)).map some
  once : ∀ address ∈ addresses,
    (selection.picks mode calls).count (some address) = 1
  apart : ∀ earlier call later, calls = earlier ++ call :: later →
    ¬ call.Turns mode →
      (selection.after (earlier ++ [call])).rotation mode =
        (selection.after earlier).rotation mode
  counter : (selection.after calls).rotation mode =
    (selection.rotation mode).forward addresses.length

theorem Round.picks_eq {calls : List Call}
    (round : selection.Round mode addresses calls) :
    selection.picks mode calls =
      (addresses.rotate (selection.start mode)).map some := by
  rw [Selection.picks_eq calls selection round.same round.rotates,
    round.length, ← map_ahead]
  apply List.map_congr_left
  intro number member
  have bound := List.mem_range.mp member
  have fits := round.fits
  rw [start] at fits
  rw [Rotation.toNat_forward (by omega)]
  rfl

/-- Every round is fair, whatever the selection was asked before. -/
theorem fairRound_of_round {calls : List Call} (selection : Selection)
    (history : List Call)
    (round : (selection.after history).Round mode addresses calls) :
    (selection.after history).FairRound mode addresses calls where
  cyclic := round.picks_eq
  once := by
    intro address member
    rw [round.picks_eq,
      List.count_map_of_injective _ some (fun _ _ => Option.some.inj),
      (List.rotate_perm _ _).count_eq]
    exact List.count_eq_one_of_mem round.distinct member
  apart := by
    rintro earlier call later _ still
    rw [after_append]
    exact rotation_answer_of_not_turns still
  counter := by
    rw [rotation_after _ _ round.rotates, round.length]

end Selection

namespace Roundabout

def first : Address := ⟨"first", 7687⟩

def second : Address := ⟨"second", 7687⟩

def call (mode : AccessMode) (addresses : List Address) : Call :=
  ⟨mode, ⟨0, fun _ => 3, 0⟩, addresses⟩

def selection : Selection :=
  Selection.after { policy := .leastConnected } [call .read [first, second]]

def calls : List Call :=
  [call .read [first, second], call .write [second, first],
    call .read [], call .read [first, second]]

theorem round : selection.Round .read [first, second] calls where
  distinct := by decide
  same := by decide
  length := by decide
  rotates := by
    intro call member _
    rw [selection, Selection.policy_after]
    have level : call.Level := by
      simp only [calls, List.mem_cons, List.not_mem_nil, or_false] at member
      rcases member with rfl | rfl | rfl | rfl <;> exact fun _ _ _ _ => rfl
    exact .leastConnected level
  fits := by decide

end Roundabout

theorem Selection.fairRound_of_round_roundabout :
    Roundabout.selection.picks .read Roundabout.calls =
        [some Roundabout.second, some Roundabout.first] ∧
      Roundabout.selection.FairRound .read
        [Roundabout.first, Roundabout.second] Roundabout.calls :=
  ⟨by decide, Selection.fairRound_of_round _ _ Roundabout.round⟩

end ClusterRouting
