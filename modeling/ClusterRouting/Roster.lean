import ClusterRouting.Address

/-! Rosters: ordered lists of addresses without repetition. A roster is a plain
value, so one that was read before a change still shows what it showed then. -/

namespace ClusterRouting

/-- Keeping the first of equal elements leaves no element twice. -/
theorem nodup_eraseDups {α : Type} [BEq α] [LawfulBEq α] (elements : List α) :
    elements.eraseDups.Nodup := by
  generalize size : elements.length = length
  induction length using Nat.strongRecOn generalizing elements with
  | ind length induction =>
      cases elements with
      | nil => simp
      | cons head tail =>
          rw [List.eraseDups_cons, List.nodup_cons]
          constructor
          · simp [List.mem_eraseDups]
          · apply induction (tail.filter fun other => !other == head).length
            · have := List.length_filter_le (fun other => !other == head) tail
              simp only [List.length_cons] at size
              omega
            · rfl

theorem eraseDups_of_nodup {α : Type} [BEq α] [LawfulBEq α]
    {elements : List α} (nodup : elements.Nodup) :
    elements.eraseDups = elements := by
  induction elements with
  | nil => rfl
  | cons head tail induction =>
      have parts := List.nodup_cons.mp nodup
      have kept : tail.filter (fun other => !other == head) = tail := by
        apply List.filter_eq_self.mpr
        intro other member
        have different : other ≠ head := fun same => parts.1 (same ▸ member)
        simp [different]
      rw [List.eraseDups_cons, kept, induction parts.2]

structure Roster where
  toList : List Address
  nodup : toList.Nodup
  deriving DecidableEq

namespace Roster

def empty : Roster := ⟨[], List.nodup_nil⟩

def ofList (addresses : List Address) : Roster :=
  ⟨addresses.eraseDups, nodup_eraseDups addresses⟩

def size (roster : Roster) : Nat :=
  roster.toList.length

def isEmpty (roster : Roster) : Bool :=
  roster.toList.isEmpty

def contains (roster : Roster) (address : Address) : Bool :=
  roster.toList.contains address

def erase (roster : Roster) (address : Address) : Roster :=
  ⟨roster.toList.filter (· != address),
    roster.nodup.sublist List.filter_sublist⟩

def remove (roster : Roster) (address : Address) : Bool × Roster :=
  if roster.contains address then (true, roster.erase address)
  else (false, roster)

@[simp] theorem mem_toList_ofList {address : Address}
    {addresses : List Address} :
    address ∈ (ofList addresses).toList ↔ address ∈ addresses := by
  simp [ofList]

@[simp] theorem mem_toList_erase {address other : Address} {roster : Roster} :
    address ∈ (roster.erase other).toList ↔
      address ∈ roster.toList ∧ address ≠ other := by
  simp [erase]

@[simp] theorem contains_eq (roster : Roster) (address : Address) :
    roster.contains address = decide (address ∈ roster.toList) :=
  List.contains_eq_mem address roster.toList

/-! ## Updates -/

structure Sweep where
  /-- The incoming addresses that have not been met in the roster. -/
  pending : Roster
  kept : List Address
  missing : List Address

def Sweep.visit (sweep : Sweep) (address : Address) : Sweep :=
  if sweep.pending.contains address then
    { sweep with
      pending := sweep.pending.erase address
      kept := sweep.kept ++ [address] }
  else { sweep with missing := sweep.missing ++ [address] }

def sweep (roster : Roster) (incoming : List Address) : Sweep :=
  roster.toList.foldl Sweep.visit ⟨ofList incoming, [], []⟩

theorem Sweep.mem_pending_visit {sweep : Sweep} {address visited : Address} :
    address ∈ (sweep.visit visited).pending.toList ↔
      address ∈ sweep.pending.toList ∧ address ≠ visited := by
  unfold visit
  split
  · exact mem_toList_erase
  · rename_i absent
    rw [contains_eq, decide_eq_true_iff] at absent
    have different (member : address ∈ sweep.pending.toList) :
        address ≠ visited := fun same => absent (same ▸ member)
    exact (and_iff_left_of_imp different).symm

/-- What the visits to some addresses find depends only on what was pending
before them, since no address is met twice. -/
theorem Sweep.visitAll {addresses : List Address} (once : addresses.Nodup)
    (sweep : Sweep) :
    let swept := addresses.foldl visit sweep
    swept.kept =
        sweep.kept ++ addresses.filter (· ∈ sweep.pending.toList) ∧
      swept.missing =
        sweep.missing ++ addresses.filter (· ∉ sweep.pending.toList) ∧
      ∀ address, address ∈ swept.pending.toList ↔
        address ∈ sweep.pending.toList ∧ address ∉ addresses := by
  induction addresses generalizing sweep with
  | nil => simp
  | cons head tail induction =>
      rcases List.nodup_cons.mp once with ⟨fresh, tailOnce⟩
      rcases induction tailOnce (sweep.visit head) with
        ⟨kept, missing, pending⟩
      -- The rest of the addresses does not notice that the head is gone.
      have others : ∀ address ∈ tail,
          (address ∈ (sweep.visit head).pending.toList ↔
            address ∈ sweep.pending.toList) := by
        intro address member
        rw [mem_pending_visit]
        exact and_iff_left fun same => fresh (same ▸ member)
      have keeps : tail.filter (· ∈ (sweep.visit head).pending.toList) =
          tail.filter (· ∈ sweep.pending.toList) :=
        List.filter_congr fun address member =>
          decide_eq_decide.mpr (others address member)
      have misses : tail.filter (· ∉ (sweep.visit head).pending.toList) =
          tail.filter (· ∉ sweep.pending.toList) :=
        List.filter_congr fun address member =>
          decide_eq_decide.mpr (not_congr (others address member))
      rw [List.foldl_cons]
      refine ⟨?_, ?_, fun address => ?_⟩
      · rw [kept, keeps, visit]
        by_cases waits : head ∈ sweep.pending.toList <;> simp [waits]
      · rw [missing, misses, visit]
        by_cases waits : head ∈ sweep.pending.toList <;> simp [waits]
      · rw [pending, mem_pending_visit, List.mem_cons, not_or, and_assoc]

theorem kept_sweep (roster : Roster) (incoming : List Address) :
    (roster.sweep incoming).kept = roster.toList.filter (· ∈ incoming) := by
  simpa [sweep] using (Sweep.visitAll roster.nodup ⟨ofList incoming, [], []⟩).1

theorem missing_sweep (roster : Roster) (incoming : List Address) :
    (roster.sweep incoming).missing = roster.toList.filter (· ∉ incoming) := by
  simpa [sweep] using
    (Sweep.visitAll roster.nodup ⟨ofList incoming, [], []⟩).2.1

/-- What is still pending at the end is new to the roster. -/
theorem mem_pending_sweep {roster : Roster} {incoming : List Address}
    {address : Address} :
    address ∈ (roster.sweep incoming).pending.toList ↔
      address ∈ incoming ∧ address ∉ roster.toList := by
  have swept := Sweep.visitAll roster.nodup ⟨ofList incoming, [], []⟩
  rw [sweep, swept.2.2, mem_toList_ofList]

/-- The roster of the incoming addresses. Those that were there already come
first and in their old order, and the others follow as they came in. -/
def update (roster : Roster) (incoming : List Address) : Roster where
  toList :=
    let swept := roster.sweep incoming
    swept.kept ++
      (ofList incoming).toList.filter (swept.pending.contains ·)
  nodup := by
    rw [List.nodup_append, kept_sweep]
    refine ⟨roster.nodup.sublist List.filter_sublist,
      (ofList incoming).nodup.sublist List.filter_sublist, ?_⟩
    intro old oldMember new newMember equal
    subst equal
    rw [List.mem_filter] at oldMember newMember
    rw [contains_eq, decide_eq_true_iff, mem_pending_sweep] at newMember
    exact newMember.2.2 oldMember.1

def missing (roster : Roster) (incoming : List Address) : List Address :=
  (roster.sweep incoming).missing

def insertAll (roster : Roster) (addresses : List Address) : Roster :=
  ofList (roster.toList ++ addresses)

def sorted (roster : Roster) : List Address :=
  roster.toList.mergeSort fun first second => first.order second != .gt

def describe (roster : Roster) : String :=
  Text.bracket (roster.toList.map Address.describe)

def outline (roster : Roster) : String :=
  Text.bracket (roster.toList.map Address.outline)

@[simp] theorem toList_empty : empty.toList = [] := rfl

theorem toList_update (roster : Roster) (incoming : List Address) :
    (roster.update incoming).toList =
      roster.toList.filter (· ∈ incoming) ++
        (ofList incoming).toList.filter (· ∉ roster.toList) := by
  change (roster.sweep incoming).kept ++ _ = _
  rw [kept_sweep, List.append_cancel_left_eq]
  apply List.filter_congr
  intro address member
  rw [mem_toList_ofList] at member
  rw [contains_eq]
  apply decide_eq_decide.mpr
  rw [mem_pending_sweep]
  exact and_iff_right member

@[simp] theorem mem_toList_update {address : Address} {roster : Roster}
    {incoming : List Address} :
    address ∈ (roster.update incoming).toList ↔ address ∈ incoming := by
  by_cases member : address ∈ roster.toList <;> simp [toList_update, member]

@[simp] theorem mem_missing {address : Address} {roster : Roster}
    {incoming : List Address} :
    address ∈ roster.missing incoming ↔
      address ∈ roster.toList ∧ address ∉ incoming := by
  simp [missing, missing_sweep]

@[simp] theorem insertAll_nil (roster : Roster) :
    roster.insertAll [] = roster := by
  rcases roster with ⟨addresses, nodup⟩
  simp [insertAll, ofList, eraseDups_of_nodup nodup]

theorem insertAll_append (roster : Roster) (first second : List Address) :
    roster.insertAll (first ++ second) =
      (roster.insertAll first).insertAll second := by
  have known (address : Address) :
      (roster.toList ++ first).eraseDups.elem address =
        (roster.toList ++ first).elem address := by
    simp
  simp only [insertAll, ofList, mk.injEq]
  rw [← List.append_assoc, List.eraseDups_append,
    @List.eraseDups_append _ _ _ (roster.toList ++ first).eraseDups,
    eraseDups_of_nodup (nodup_eraseDups _)]
  simp only [List.removeAll, known]

end Roster

end ClusterRouting
