import ClusterRouting.Proofs.Accounts
import ClusterRouting.Proofs.Rosters

/-! Updates: what a composition makes of a table, and whom it takes out.

The three roles are updated one by one, and what one of them loses another may
still hold. Only the readers and the writers count as lost. What a table shows
afterwards depends on its past in the order of the members alone. -/

namespace ClusterRouting

theorem Roster.isEmpty_iff {roster : Roster} {addresses : List Address}
    (same : ∀ address, address ∈ roster.toList ↔ address ∈ addresses) :
    roster.isEmpty = true ↔ addresses = [] := by
  rw [isEmpty, List.isEmpty_iff, List.eq_nil_iff_forall_not_mem,
    List.eq_nil_iff_forall_not_mem]
  simp only [same]

def Composition.ofListing (expires : Timestamp)
    (listed : Role → List Address) : Composition :=
  ofLists expires (listed .read) (listed .write) (listed .route)

theorem Composition.members_ofListing (expires : Timestamp)
    (listed : Role → List Address) (role : Role) :
    (ofListing expires listed).members role = .ofList (listed role) := by
  cases role <;> rfl

namespace Table

variable (table : Table) (composition : Composition)

theorem members_update (role : Role) :
    (table.update composition).members role =
      (table.members role).update (composition.members role).toList := by
  cases role <;> rfl

theorem members_update_of_empty {role : Role}
    (empty : (table.members role).toList = []) :
    (table.update composition).members role = composition.members role := by
  apply Roster.ext
  rw [members_update, Roster.toList_update, empty, Roster.ofList_toList]
  exact List.filter_eq_self.mpr (by simp)

theorem isStaleFor_iff {now : Timestamp} {mode : AccessMode} :
    table.isStaleFor now mode = true ↔
      table.expires ≤ now ∨ (table.members mode.role).isEmpty = true := by
  rw [members_role, isStaleFor, isExpired, Bool.or_eq_true,
    decide_eq_true_iff]

theorem isStale_iff {now : Timestamp} :
    table.isStale now = true ↔
      table.expires ≤ now ∨
        ∃ role, (table.members role).isEmpty = true := by
  simp only [isStale, isExpired, Bool.or_eq_true, decide_eq_true_iff,
    or_assoc]
  apply or_congr Iff.rfl
  constructor
  · rintro (routers | readers | writers)
    · exact ⟨.route, routers⟩
    · exact ⟨.read, readers⟩
    · exact ⟨.write, writers⟩
  · rintro ⟨role, empty⟩
    cases role with
    | route => exact .inl empty
    | read => exact .inr (.inl empty)
    | write => exact .inr (.inr empty)

end Table

/-- What a composition makes of a table, and whom it takes out. The composition
is made from some addresses that are listed for each role. -/
structure ExactUpdate (before : Table) (listed : Role → List Address)
    (composition : Composition) (removed : Roster) (after : Table) :
    Prop where
  /-- Routers do not count. -/
  removed : ∀ address, address ∈ removed.toList ↔
    (address ∈ before.readers.toList ∧ address ∉ listed .read) ∨
      (address ∈ before.writers.toList ∧ address ∉ listed .write)
  members : ∀ role address,
    address ∈ (after.members role).toList ↔ address ∈ listed role
  order : ∀ role, ∃ fresh,
    (after.members role).toList =
        (before.members role).toList.filter (· ∈ listed role) ++ fresh ∧
      FirstOccurrences (listed role) (· ∉ (before.members role).toList) fresh
  anew : ∀ role, (before.members role).toList = [] →
    after.members role = composition.members role ∧
      FirstOccurrences (listed role) (fun _ => True)
        (after.members role).toList
  expires : after.expires = composition.expires
  staleFor : ∀ now mode, after.isStaleFor now mode = true ↔
    composition.expires ≤ now ∨ listed mode.role = []
  stale : ∀ now, after.isStale now = true ↔
    composition.expires ≤ now ∨ ∃ role, listed role = []

/-- Every update of a table is exact, whatever was done to the table before. -/
theorem Table.exactUpdate_ofDeeds (seeds : List Address) (deeds : List Deed)
    (expires : Timestamp) (listed : Role → List Address) :
    let table := deeds.foldl apply (.ofRouters seeds)
    let composition := Composition.ofListing expires listed
    ExactUpdate table listed composition (table.removed composition)
      (table.update composition) := by
  intro table composition
  have lists (role : Role) :
      composition.members role = .ofList (listed role) :=
    Composition.members_ofListing expires listed role
  have members (role : Role) (address : Address) :
      address ∈ ((table.update composition).members role).toList ↔
        address ∈ listed role := by
    rw [mem_members_update, lists, Roster.mem_toList_ofList]
  exact {
    removed := by
      intro address
      rw [removed, Roster.mem_toList_ofList, List.mem_append,
        Roster.mem_missing, Roster.mem_missing]
      simp [composition, Composition.ofListing, Composition.ofLists]
    members := members
    order := by
      intro role
      rw [members_update, lists, Roster.update_ofList, Roster.toList_update]
      exact ⟨_, rfl, Roster.firstOccurrences_filter (listed role) _⟩
    anew := by
      intro role empty
      rw [table.members_update_of_empty composition empty, lists]
      exact ⟨rfl, Roster.firstOccurrences_ofList (listed role)⟩
    expires := rfl
    staleFor := by
      intro now mode
      rw [isStaleFor_iff, Roster.isEmpty_iff (members mode.role)]
      exact Iff.rfl
    stale := by
      intro now
      rw [isStale_iff]
      simp only [Roster.isEmpty_iff (members _)]
      exact Iff.rfl }

end ClusterRouting
