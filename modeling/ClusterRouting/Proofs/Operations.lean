import ClusterRouting.System

/-! Operations: what carrying on a refresh, ending it, and closing do to a
balancer, and what they ask of the world outside. -/

namespace ClusterRouting

def Table.settle (table : Table) : Except Error Composition → Table
  | .ok composition => table.update composition
  | .error _ => table

namespace Refresh

def isUnfinished : Refresh → Bool
  | .ready _ | .waiting _ _ => true
  | .ended _ | .crashed _ => false

def hasEnded : Refresh → Bool
  | .ended _ => true
  | .ready _ | .waiting _ _ | .crashed _ => false

end Refresh

namespace Balancer

def turn? (balancer : Balancer) :
    Event → Option (Nat × Search (Except Error Composition))
  | .proceed =>
      match balancer.underWay with
      | some (place, .ready search) => some (place, search)
      | _ => none
  | .answer answer =>
      match balancer.underWay with
      | some (place, .waiting request resume) =>
          (answer.reply? request).map fun reply => (place, resume reply)
      | _ => none
  | _ => none

theorem underWay_eq_some_iff {balancer : Balancer} {place : Nat}
    {refresh : Refresh} :
    balancer.underWay = some (place, refresh) ↔
      balancer.slot = some place ∧
        balancer.refreshes[place]? = some refresh := by
  simp only [underWay, bind, Option.bind_eq_some_iff, Option.some.injEq,
    Prod.mk.injEq]
  constructor
  · rintro ⟨_, slot, _, found, rfl, rfl⟩
    exact ⟨slot, found⟩
  · rintro ⟨slot, found⟩
    exact ⟨place, slot, refresh, found, rfl, rfl⟩

/-- Only an unfinished refresh in the slot is carried on. -/
theorem underWay_of_turn {balancer : Balancer} {event : Event} {place : Nat}
    {search : Search (Except Error Composition)}
    (turn : balancer.turn? event = some (place, search)) :
    ∃ refresh, balancer.slot = some place ∧
      balancer.refreshes[place]? = some refresh ∧
        refresh.isUnfinished = true := by
  unfold turn? at turn
  split at turn
  · split at turn
    · rename_i found
      cases turn
      exact ⟨_, (underWay_eq_some_iff.mp found).1,
        (underWay_eq_some_iff.mp found).2, rfl⟩
    · cases turn
  · split at turn
    · rename_i found
      rcases Option.map_eq_some_iff.mp turn with ⟨_, _, equal⟩
      cases equal
      exact ⟨_, (underWay_eq_some_iff.mp found).1,
        (underWay_eq_some_iff.mp found).2, rfl⟩
    · cases turn
  · cases turn

def turn (balancer : Balancer) (now : Timestamp) (event : Event) :
    Balancer × List Effect :=
  match balancer.turn? event with
  | some (place, search) => balancer.carryOn now place search
  | none => (balancer, [])

theorem proceed_eq (balancer : Balancer) (now : Timestamp) :
    balancer.proceed now = balancer.turn now .proceed := by
  unfold proceed turn turn?
  rcases balancer.underWay with _ | ⟨place, refresh⟩
  · rfl
  · cases refresh <;> rfl

theorem receive_eq (balancer : Balancer) (now : Timestamp)
    (answer : Answer) :
    balancer.receive now answer = balancer.turn now (.answer answer) := by
  unfold receive turn turn?
  rcases balancer.underWay with _ | ⟨place, refresh⟩
  · rfl
  · cases refresh with
    | waiting request resume =>
        cases replied : answer.reply? request <;> simp [replied]
    | ready search => rfl
    | ended outcome => rfl
    | crashed fault => rfl

variable (balancer : Balancer) (now : Timestamp) (place : Nat)
  (result : Except Error Composition)

@[simp] theorem conclude_table :
    (balancer.conclude now place result).1.table =
      balancer.table.settle result := by
  cases result <;> rfl

@[simp] theorem conclude_provider :
    (balancer.conclude now place result).1.provider = balancer.provider := by
  cases result <;> rfl

@[simp] theorem conclude_slot :
    (balancer.conclude now place result).1.slot = none := by
  cases result <;> rfl

@[simp] theorem conclude_refreshes :
    (balancer.conclude now place result).1.refreshes =
      balancer.refreshes.set place
        (.ended (result.map fun _ => balancer.table.settle result)) := by
  cases result <;> rfl

theorem carryOn_cases (search : Search (Except Error Composition)) :
    let progress := search.advance now balancer.table
    let reached := { balancer with table := progress.table }
    let notices := progress.notices.map Effect.note
    (∃ result, progress.stop = .finish result ∧
      balancer.carryOn now place search =
        ((reached.conclude now place result).1,
          notices ++ (reached.conclude now place result).2)) ∨
    (∃ request resume, progress.stop = .wait request resume ∧
      balancer.carryOn now place search =
        ({ reached with refreshes :=
            balancer.refreshes.set place (.waiting request resume) },
          notices ++ [.ask request])) := by
  intro progress reached notices
  unfold carryOn
  cases stop : progress.stop with
  | finish result =>
      refine .inl ⟨result, rfl, ?_⟩
      simp only [progress, stop]
      rfl
  | wait request resume =>
      refine .inr ⟨request, resume, rfl, ?_⟩
      simp only [progress, stop]
      rfl

theorem close_cases :
    balancer.close = (balancer, []) ∨
      balancer.close = ({ balancer with closed := true },
        [.note ⟨.debug, "Closing load balancer"⟩, .closePool]) := by
  unfold close
  split
  · exact .inl rfl
  · exact .inr rfl

/-! ## What is asked of the pool -/

theorem conclude_silent (caller : Nat) (address : Address) :
    .acquire caller address ∉ (balancer.conclude now place result).2 := by
  cases result <;> simp [conclude]

/-- A refresh never asks the pool for a connection on behalf of a caller. -/
theorem carryOn_silent (search : Search (Except Error Composition))
    (caller : Nat) (address : Address) :
    .acquire caller address ∉ (balancer.carryOn now place search).2 := by
  rcases balancer.carryOn_cases now place search with
    ⟨result, _, equal⟩ | ⟨request, resume, _, equal⟩
  · rw [equal]
    simp [conclude_silent]
  · rw [equal]
    simp

end Balancer

namespace Effect

def purged? : Effect → Option Address
  | .purge address => some address
  | .note _ | .ask _ | .acquire _ _ | .closePool => none

def purges (effects : List Effect) : List Address :=
  effects.filterMap purged?

theorem mem_purges {effects : List Effect} {address : Address} :
    address ∈ purges effects ↔ .purge address ∈ effects := by
  unfold purges
  constructor
  · intro member
    rcases List.mem_filterMap.mp member with ⟨effect, found, equal⟩
    cases effect with
    | purge other =>
        cases equal
        exact found
    | note notice => cases equal
    | ask request => cases equal
    | acquire caller other => cases equal
    | closePool => cases equal
  · intro member
    exact List.mem_filterMap.mpr ⟨.purge address, member, rfl⟩

@[simp] theorem purges_append (first second : List Effect) :
    purges (first ++ second) = purges first ++ purges second :=
  List.filterMap_append

@[simp] theorem purges_notes (notices : List Notice) :
    purges (notices.map .note) = [] := by
  induction notices with
  | nil => rfl
  | cons notice rest induction => exact induction

theorem purges_map_purge (addresses : List Address) :
    purges (addresses.map .purge) = addresses := by
  induction addresses with
  | nil => rfl
  | cons address rest induction => exact congrArg (address :: ·) induction

@[simp] theorem purges_ask (request : Request) : purges [.ask request] = [] :=
  rfl

@[simp] theorem purges_acquire (caller : Nat) (address : Address) :
    purges [.acquire caller address] = [] :=
  rfl

end Effect

namespace Balancer

variable (balancer : Balancer) (now : Timestamp) (place : Nat)

@[simp] theorem purges_conclude_ok (composition : Composition) :
    Effect.purges (balancer.conclude now place (.ok composition)).2 =
      (balancer.table.removed composition).toList :=
  (Effect.purges_append _ _).trans
    ((List.append_nil _).trans (Effect.purges_map_purge _))

@[simp] theorem purges_conclude_error (error : Error) :
    Effect.purges (balancer.conclude now place (.error error)).2 = [] :=
  rfl

end Balancer

end ClusterRouting
