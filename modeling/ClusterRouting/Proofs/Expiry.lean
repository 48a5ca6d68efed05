import ClusterRouting.Composition

/-! Expiry: until when a composition holds.

The moment is computed in 64 bits. A sum that would leave them is not taken,
and a time that would have to be multiplied out of them is not multiplied. -/

namespace ClusterRouting

@[simp] theorem mapError_eq_ok_iff {First Second Result : Type}
    {outcome : Except First Result} {change : First → Second}
    {result : Result} :
    outcome.mapError change = .ok result ↔ outcome = .ok result := by
  cases outcome with
  | ok found =>
      constructor
      · rintro ⟨rfl⟩
        rfl
      · rintro ⟨rfl⟩
        rfl
  | error error => exact ⟨nofun, nofun⟩

namespace Composition

theorem add?_eq_some_iff {first second sum : Timestamp} :
    add? first second = some sum ↔
      sum.toInt = first.toInt + second.toInt := by
  simp only [add?, Option.ite_none_right_eq_some, Option.some.injEq]
  constructor
  · rintro ⟨exact, rfl⟩
    exact exact
  · intro exact
    have wrapped : first + second = sum := by
      apply Int64.toInt_inj.mp
      rw [Int64.toInt_add, ← exact, Int64.toInt_bmod]
    exact ⟨wrapped ▸ exact, wrapped⟩

/-- A time that is neither negative nor too long fits into the 64 bits as a
number of milliseconds. -/
theorem toInt_milliseconds {ttl : Int64} (lower : ¬ ttl < 0)
    (upper : ¬ never / 1000 ≤ ttl) :
    0 ≤ ttl.toInt ∧ (ttl * 1000).toInt = ttl.toInt * 1000 := by
  rw [Int64.lt_iff_toInt_lt, Int64.toInt_zero] at lower
  rw [Int64.le_iff_toInt_le] at upper
  have bound : (never / 1000).toInt = 9223372036854775 := by decide
  have thousand : (1000 : Int64).toInt = 1000 := rfl
  refine ⟨by omega, ?_⟩
  rw [Int64.toInt_mul, thousand]
  apply Int.bmod_eq_of_le
  · omega
  · omega

/-- No composition has expired before it is read. -/
theorem le_expiry (now ttl : Int64) : now ≤ expiry now ttl := by
  unfold expiry
  split
  · exact now.le_maxValue
  · rename_i finite
    rw [not_or] at finite
    have span := toInt_milliseconds finite.1 finite.2
    split
    · rename_i expires added
      split
      · rw [add?_eq_some_iff] at added
        rw [Int64.le_iff_toInt_le]
        omega
      · exact now.le_maxValue
    · exact now.le_maxValue

variable {record : Record} {now : Timestamp} {composition : Composition}

theorem expires_of_parse (parsed : parse record now = .ok composition) :
    ∃ ttl, composition.expires = expiry now ttl := by
  simp only [parse, mapError_eq_ok_iff, read, bind, Except.bind] at parsed
  split at parsed
  · cases parsed
  · rename_i ttl _
    split at parsed
    · cases parsed
    · split at parsed
      · cases parsed
      · cases parsed
        exact ⟨ttl, rfl⟩

end Composition

end ClusterRouting
