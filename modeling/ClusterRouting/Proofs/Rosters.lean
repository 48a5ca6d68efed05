import ClusterRouting.Roster
import Mathlib.Data.List.Induction
import Mathlib.Data.List.Nodup

/-! Rosters: what a roster holds after all that was done to it.

A roster names an address once, however often it comes in. Its order tells who
was there first: those whom an update keeps stay in their places, and the others
come in behind them, in the order in which they are named first. -/

namespace ClusterRouting

structure FirstOccurrences (addresses : List Address)
    (Wanted : Address → Prop) (firsts : List Address) : Prop where
  mem : ∀ address, address ∈ firsts ↔ address ∈ addresses ∧ Wanted address
  order : firsts.Pairwise fun earlier later =>
    addresses.idxOf earlier < addresses.idxOf later

theorem ordered_eraseDups (addresses : List Address) :
    addresses.eraseDups.Pairwise fun earlier later =>
      addresses.idxOf earlier < addresses.idxOf later := by
  induction addresses using List.reverseRecOn with
  | nil => exact .nil
  | append_singleton others last induction =>
      -- The positions in the list do not change when it gets longer.
      have kept : others.eraseDups.Pairwise fun earlier later =>
          (others ++ [last]).idxOf earlier <
            (others ++ [last]).idxOf later := by
        apply induction.imp_of_mem
        intro earlier later earlierMember laterMember before
        rw [List.mem_eraseDups] at earlierMember laterMember
        rwa [List.idxOf_append_of_mem earlierMember,
          List.idxOf_append_of_mem laterMember]
      rw [List.eraseDups_append]
      by_cases known : last ∈ others
      · simpa [List.removeAll, known] using kept
      · have only : [last].removeAll others = [last] := by
          simp [List.removeAll, known]
        rw [only, eraseDups_of_nodup (List.nodup_singleton last),
          List.pairwise_append]
        refine ⟨kept, List.pairwise_singleton _ _, ?_⟩
        intro earlier earlierMember later laterMember
        rw [List.mem_eraseDups] at earlierMember
        rw [List.mem_singleton.mp laterMember, List.idxOf_append,
          List.idxOf_append, if_pos earlierMember, if_neg known]
        have place := List.idxOf_lt_length_iff.mpr earlierMember
        omega

namespace Roster

theorem firstOccurrences_ofList (addresses : List Address) :
    FirstOccurrences addresses (fun _ => True) (ofList addresses).toList where
  mem := by simp
  order := ordered_eraseDups addresses

theorem firstOccurrences_filter (addresses : List Address)
    (Wanted : Address → Prop) [DecidablePred Wanted] :
    FirstOccurrences addresses Wanted
      ((ofList addresses).toList.filter (Wanted ·)) where
  mem := by simp
  order := (ordered_eraseDups addresses).filter _

variable (roster : Roster)

theorem ext {first second : Roster} (same : first.toList = second.toList) :
    first = second := by
  cases first
  cases second
  cases same
  rfl

theorem ofList_toList : ofList roster.toList = roster :=
  ext (eraseDups_of_nodup roster.nodup)

/-- It makes no difference whether repetitions are left out before. -/
theorem update_ofList (incoming : List Address) :
    roster.update (ofList incoming).toList = roster.update incoming := by
  apply ext
  rw [toList_update, toList_update, ofList_toList]
  simp only [mem_toList_ofList]

theorem ofList_eq_update (addresses : List Address) :
    ofList addresses = empty.update addresses := by
  apply ext
  rw [toList_update]
  exact (List.filter_eq_self.mpr (by simp)).symm

/-- To update a roster again changes nothing. -/
theorem update_update (incoming : List Address) :
    (roster.update incoming).update incoming = roster.update incoming := by
  apply ext
  rw [(roster.update incoming).toList_update]
  have stay : (roster.update incoming).toList.filter (· ∈ incoming) =
      (roster.update incoming).toList := by
    simp [List.filter_eq_self]
  have nobody : (ofList incoming).toList.filter
      (· ∉ (roster.update incoming).toList) = [] := by
    simp [List.filter_eq_nil_iff]
  rw [stay, nobody, List.append_nil]

theorem missing_update (incoming : List Address) :
    (roster.update incoming).missing incoming = [] := by
  apply List.eq_nil_iff_forall_not_mem.mpr
  simp

theorem mem_insertAll {addresses : List Address} {address : Address} :
    address ∈ (roster.insertAll addresses).toList ↔
      address ∈ roster.toList ∨ address ∈ addresses := by
  simp [insertAll]

theorem erase_of_not_mem {address : Address}
    (absent : address ∉ roster.toList) : roster.erase address = roster := by
  apply ext
  apply List.filter_eq_self.mpr
  intro other member
  exact bne_iff_ne.mpr fun same => absent (same ▸ member)

theorem remove_eq (address : Address) :
    roster.remove address =
      (decide (address ∈ roster.toList), roster.erase address) := by
  rw [remove, contains_eq]
  by_cases member : address ∈ roster.toList
  · simp [member]
  · simp [member, roster.erase_of_not_mem member]

/-- The others stay where they are. -/
theorem toList_erase {address : Address} {before after : List Address}
    (split : roster.toList = before ++ address :: after) :
    (roster.erase address).toList = before ++ after := by
  have once := roster.nodup
  rw [split, List.nodup_middle, List.nodup_cons] at once
  have others : (before ++ after).filter (· != address) = before ++ after := by
    apply List.filter_eq_self.mpr
    intro other member
    exact bne_iff_ne.mpr fun same => once.1 (same ▸ member)
  change roster.toList.filter (· != address) = before ++ after
  rw [List.filter_append] at others
  rw [split, List.filter_append, List.filter_cons, bne_self_eq_false,
    if_neg Bool.false_ne_true, others]

inductive Edit where
  | collect (addresses : List Address)
  | update (incoming : List Address)
  | remove (address : Address)

def apply (roster : Roster) : Edit → Roster
  | .collect addresses => ofList addresses
  | .update incoming => roster.update incoming
  | .remove address => (roster.remove address).2

def ofEdits (edits : List Edit) : Roster :=
  edits.foldl apply empty

namespace Edit

def Lists (address : Address) : Edit → Prop
  | .collect addresses | .update addresses => address ∈ addresses
  | .remove _ => False

def Spares (address : Address) : Edit → Prop
  | .collect addresses | .update addresses => address ∈ addresses
  | .remove other => address ≠ other

theorem mem_apply {roster : Roster} {edit : Edit} {address : Address} :
    address ∈ (roster.apply edit).toList ↔
      edit.Lists address ∨ address ∈ roster.toList ∧ edit.Spares address := by
  cases edit with
  | collect addresses => simp [apply, Lists, Spares]
  | update incoming => simp [apply, Lists, Spares]
  | remove other => simp [apply, remove_eq, Lists, Spares]

end Edit

theorem ofEdits_concat (edits : List Edit) (edit : Edit) :
    ofEdits (edits ++ [edit]) = (ofEdits edits).apply edit := by
  simp [ofEdits]

/-- A roster holds the addresses that some edit has listed and all later edits
have spared. -/
theorem mem_ofEdits {edits : List Edit} {address : Address} :
    address ∈ (ofEdits edits).toList ↔
      ∃ earlier edit later, edits = earlier ++ edit :: later ∧
        edit.Lists address ∧ ∀ other ∈ later, other.Spares address := by
  induction edits using List.reverseRecOn with
  | nil => simp [ofEdits]
  | append_singleton edits last induction =>
      rw [ofEdits_concat, Edit.mem_apply, induction]
      constructor
      · rintro (lists | ⟨⟨earlier, edit, later, split, lists, spared⟩, spares⟩)
        · exact ⟨edits, last, [], rfl, lists, by simp⟩
        · refine ⟨earlier, edit, later ++ [last], by simp [split], lists, ?_⟩
          intro other member
          rcases List.mem_append.mp member with old | new
          · exact spared other old
          · exact List.mem_singleton.mp new ▸ spares
      · rintro ⟨earlier, edit, later, split, lists, spared⟩
        rcases List.eq_nil_or_concat' later with rfl | ⟨rest, final, rfl⟩
        · rcases List.append_inj' split rfl with ⟨_, only⟩
          cases only
          exact .inl lists
        · rw [← List.cons_append, ← List.append_assoc] at split
          rcases List.append_inj' split rfl with ⟨before, only⟩
          cases only
          rw [List.forall_mem_append, List.forall_mem_singleton] at spared
          exact .inr ⟨⟨earlier, edit, rest, before, lists, spared.1⟩, spared.2⟩

structure OrderlyRoster (edits : List Edit) (roster : Roster) : Prop where
  once : roster.toList.Nodup
  history : ∀ address, address ∈ roster.toList ↔
    ∃ earlier edit later, edits = earlier ++ edit :: later ∧
      edit.Lists address ∧ ∀ other ∈ later, other.Spares address
  collects : ∀ addresses,
    roster.apply (.collect addresses) = empty.update addresses
  updates : ∀ incoming, ∃ fresh,
    (roster.update incoming).toList =
        roster.toList.filter (· ∈ incoming) ++ fresh ∧
      FirstOccurrences incoming (· ∉ roster.toList) fresh
  reports : ∀ incoming (removed : Roster) address,
    address ∈ (removed.insertAll (roster.missing incoming)).toList ↔
      address ∈ removed.toList ∨
        address ∈ roster.toList ∧ address ∉ incoming
  again : ∀ incoming (removed : Roster),
    let updated := roster.update incoming
    updated.update incoming = updated ∧
      removed.insertAll (updated.missing incoming) = removed
  answers : ∀ address,
    (roster.remove address).1 = true ↔ address ∈ roster.toList
  removes : ∀ before address after,
    roster.toList = before ++ address :: after →
      (roster.remove address).2.toList = before ++ after
  ignores : ∀ address, address ∉ roster.toList →
    (roster.remove address).2 = roster

theorem orderlyRoster_ofEdits (edits : List Edit) :
    OrderlyRoster edits (ofEdits edits) where
  once := (ofEdits edits).nodup
  history := fun _ => mem_ofEdits
  collects := ofList_eq_update
  updates := fun incoming =>
    ⟨_, (ofEdits edits).toList_update incoming,
      firstOccurrences_filter incoming (· ∉ (ofEdits edits).toList)⟩
  reports := by
    intro incoming removed address
    rw [mem_insertAll, mem_missing]
  again := by
    intro incoming removed updated
    refine ⟨update_update _ incoming, ?_⟩
    rw [missing_update, insertAll_nil]
  answers := by
    intro address
    rw [remove_eq, decide_eq_true_iff]
  removes := by
    intro before address after split
    rw [remove_eq]
    exact toList_erase _ split
  ignores := by
    intro address absent
    rw [remove_eq]
    exact erase_of_not_mem _ absent

end Roster

end ClusterRouting
