import ClusterRouting.Proofs.Readings
import Mathlib.Algebra.Group.Int.Defs

/-! Deadlines: the moments at which compositions expire, as numbers.

A router grants some seconds. They are multiplied and added to the moment of the
reading, and whatever does not fit into the 64 bits lasts forever. So a deadline
never comes early, and no more time means no earlier end. -/

namespace ClusterRouting

def fit? (number : Int) : Option Int64 :=
  if (Int64.ofInt number).toInt = number then some (.ofInt number) else none

theorem fit?_toInt (number : Int64) : fit? number.toInt = some number := by
  rw [fit?, Int64.ofInt_toInt, if_pos rfl]

namespace Composition

/-- The computation of the expiry, with other operations in the place of the
division and of the multiplication. -/
def expiryBy {Monadic : Type → Type} [Monad Monadic]
    (divide multiply : Int64 → Int64 → Monadic Int64) (now ttl : Int64) :
    Monadic Timestamp := do
  let limit ← divide never 1000
  if ttl < 0 ∨ limit ≤ ttl then return never
  else
    let span ← multiply ttl 1000
    match add? now span with
    | some expires => return if 0 ≤ expires then expires else never
    | none => return never

theorem expiryBy_plain (now ttl : Int64) :
    Id.run (expiryBy (fun first second => first / second)
      (fun first second => first * second) now ttl) = expiry now ttl :=
  rfl

/-- A composition has an end if the time is not negative nor too long, and the
end is not before the epoch nor out of range. -/
def Ends (now ttl : Int64) : Prop :=
  0 ≤ ttl.toInt ∧ ttl.toInt < (2 ^ 63 - 1) / 1000 ∧
    0 ≤ now.toInt + 1000 * ttl.toInt ∧
      now.toInt + 1000 * ttl.toInt ≤ 2 ^ 63 - 1

instance (now ttl : Int64) : Decidable (Ends now ttl) :=
  inferInstanceAs (Decidable (_ ∧ _ ∧ _ ∧ _))

theorem toInt_never : never.toInt = 2 ^ 63 - 1 := by
  decide

theorem zero_le_iff {moment : Timestamp} : 0 ≤ moment ↔ 0 ≤ moment.toInt := by
  rw [Int64.le_iff_toInt_le, Int64.toInt_zero]

theorem endless_iff {ttl : Int64} :
    ttl < 0 ∨ never / 1000 ≤ ttl ↔
      ¬ (0 ≤ ttl.toInt ∧ ttl.toInt < (2 ^ 63 - 1) / 1000) := by
  have limit : (never / 1000).toInt = (2 ^ 63 - 1) / 1000 := by decide
  rw [Int64.lt_iff_toInt_lt, Int64.toInt_zero, Int64.le_iff_toInt_le, limit]
  omega

variable {now ttl : Int64}

theorem toInt_span (lower : 0 ≤ ttl.toInt)
    (upper : ttl.toInt < (2 ^ 63 - 1) / 1000) :
    (ttl * 1000).toInt = ttl.toInt * 1000 := by
  have finite := mt endless_iff.mp (not_not.mpr ⟨lower, upper⟩)
  rw [not_or] at finite
  exact (toInt_milliseconds finite.1 finite.2).2

theorem toInt_expiry_of_ends (ends : Ends now ttl) :
    (expiry now ttl).toInt = now.toInt + 1000 * ttl.toInt := by
  rcases ends with ⟨lower, upper, early, late⟩
  have span := toInt_span lower upper
  have exact : (Int64.ofInt (now.toInt + 1000 * ttl.toInt)).toInt =
      now.toInt + 1000 * ttl.toInt :=
    Int64.toInt_ofInt_of_le (by omega) (by omega)
  have added : add? now (ttl * 1000) =
      some (.ofInt (now.toInt + 1000 * ttl.toInt)) := by
    rw [add?_eq_some_iff, exact, span]
    omega
  have natural : (0 : Timestamp) ≤ .ofInt (now.toInt + 1000 * ttl.toInt) := by
    rw [zero_le_iff, exact]
    exact early
  rw [expiry, if_neg (mt endless_iff.mp (not_not.mpr ⟨lower, upper⟩)), added]
  simp only [natural, if_true]
  exact exact

theorem expiry_of_not_ends (endless : ¬ Ends now ttl) :
    expiry now ttl = never := by
  rw [expiry]
  split
  · rfl
  · rename_i finite
    rw [endless_iff, not_not] at finite
    have span := toInt_span finite.1 finite.2
    split
    · rename_i expires added
      rw [add?_eq_some_iff] at added
      split
      · rename_i natural
        rw [zero_le_iff] at natural
        have upper := expires.toInt_lt
        exact absurd ⟨finite.1, finite.2, by omega, by omega⟩ endless
      · rfl
    · rfl

theorem toInt_expiry (now ttl : Int64) :
    (expiry now ttl).toInt =
      if Ends now ttl then now.toInt + 1000 * ttl.toInt else 2 ^ 63 - 1 := by
  split
  · rename_i ends
    exact toInt_expiry_of_ends ends
  · rename_i endless
    rw [expiry_of_not_ends endless, toInt_never]

/-- No operation fails for want of bits. -/
theorem expiryBy_fit (now ttl : Int64) :
    expiryBy (fun first second => fit? (first.toInt.tdiv second.toInt))
      (fun first second => fit? (first.toInt * second.toInt)) now ttl =
        some (expiry now ttl) := by
  have limit :
      fit? (never.toInt.tdiv (1000 : Int64).toInt) = some (never / 1000) := by
    decide
  rw [expiryBy, expiry, limit, Option.bind_eq_bind, Option.bind_some]
  split
  · rfl
  · rename_i finite
    rw [endless_iff, not_not] at finite
    have span : fit? (ttl.toInt * (1000 : Int64).toInt) =
        some (ttl * 1000) := by
      rw [← fit?_toInt (ttl * 1000), toInt_span finite.1 finite.2]
      rfl
    rw [span, Option.bind_some]
    cases add? now (ttl * 1000) <;> rfl

/-- More time, or a later reading, means no earlier end. -/
theorem expiry_le_expiry {now' ttl' : Int64} (natural : 0 ≤ now)
    (before : now ≤ now') (less : ttl ≤ ttl')
    (granted : 0 ≤ ttl ↔ 0 ≤ ttl') : expiry now ttl ≤ expiry now' ttl' := by
  rw [zero_le_iff, zero_le_iff] at granted
  rw [zero_le_iff] at natural
  rw [Int64.le_iff_toInt_le] at before less
  by_cases endsLater : Ends now' ttl'
  · have ends : Ends now ttl := by
      unfold Ends at *
      omega
    rw [Int64.le_iff_toInt_le, toInt_expiry_of_ends ends,
      toInt_expiry_of_ends endsLater]
    omega
  · rw [expiry_of_not_ends endsLater]
    exact Int64.le_maxValue _

def Expires (now ttl : Int64) (expires : Timestamp) : Prop :=
  ∃ (record : Record) (entries : List (Role × List Address))
    (composition : Composition),
    record.Tells ttl entries ∧ parse record now = .ok composition ∧
      composition.expires = expires

/-- A record may grant any time. -/
theorem tells_ofPairs (ttl : Int64) :
    (Record.ofPairs [("ttl", .integer ttl), ("servers", .list [])]).Tells
      ttl [] :=
  ⟨Record.get?_eq_some_iff.mp rfl, [], Record.get?_eq_some_iff.mp rfl, .nil⟩

theorem expires_iff {expires : Timestamp} :
    Expires now ttl expires ↔ expires = expiry now ttl := by
  constructor
  · rintro ⟨record, entries, composition, tells, parsed, rfl⟩
    rw [eq_ofEntries tells parsed]
    rfl
  · rintro rfl
    exact ⟨_, [], _, tells_ofPairs ttl, parse_of_tells (tells_ofPairs ttl), rfl⟩

structure ExactExpiry (now ttl : Int64) (expires : Timestamp) : Prop where
  /-- The operations may wrap around. -/
  wraps : Id.run (expiryBy (fun first second => first / second)
    (fun first second => first * second) now ttl) = expires
  /-- They come to the same if they fail instead. So they never wrap around. -/
  fits : expiryBy (fun first second => fit? (first.toInt.tdiv second.toInt))
    (fun first second => fit? (first.toInt * second.toInt)) now ttl =
      some expires
  value : expires.toInt =
    if Ends now ttl then now.toInt + 1000 * ttl.toInt else 2 ^ 63 - 1
  natural : 0 ≤ expires
  ahead : now ≤ expires
  endless : ttl < 0 → expires.toInt = 2 ^ 63 - 1
  longer : 0 ≤ now → 0 ≤ ttl → ∀ more other, ttl ≤ more →
    Expires now more other → expires ≤ other
  later : 0 ≤ now → ∀ then' other, now ≤ then' →
    Expires then' ttl other → expires ≤ other

/-- Whatever the clock shows and whatever time is granted, all records say the
same about the end. -/
theorem exactExpiry_parse (now ttl : Int64) :
    ∃ expires, (∀ other, Expires now ttl other ↔ other = expires) ∧
      ExactExpiry now ttl expires := by
  refine ⟨expiry now ttl, fun _ => expires_iff, ?_⟩
  exact {
    wraps := expiryBy_plain now ttl
    fits := expiryBy_fit now ttl
    value := toInt_expiry now ttl
    natural := by
      rw [zero_le_iff, toInt_expiry]
      split
      · rename_i ends
        exact ends.2.2.1
      · decide
    ahead := le_expiry now ttl
    endless := by
      intro negative
      rw [Int64.lt_iff_toInt_lt, Int64.toInt_zero] at negative
      have endless : ¬ Ends now ttl := fun ends => by
        have lower := ends.1
        omega
      rw [expiry_of_not_ends endless, toInt_never]
    longer := by
      intro natural granted more other less expires
      rw [expires_iff.mp expires]
      have still := Int64.le_trans granted less
      exact expiry_le_expiry natural (Int64.le_refl now) less
        (iff_of_true granted still)
    later := by
      intro natural then' other before expires
      rw [expires_iff.mp expires]
      exact expiry_le_expiry natural before (Int64.le_refl ttl) .rfl }

end Composition

end ClusterRouting
