import ClusterRouting.Settings
import Mathlib.Algebra.Group.Nat.Defs
import Mathlib.Order.Monotone.Basic

/-! Delays: how long a search waits before each of its passes.

A delay that doubles grows up to the longest duration and stays there. Nothing
wraps around on the way, since a sum that does not fit is cut off before it is
carried on. -/

namespace ClusterRouting

namespace Duration

theorem eq_zero_iff {duration : Duration} :
    duration = zero ↔ duration.nanoseconds = 0 := by
  cases duration
  simp [zero]

theorem nanoseconds_longer (first second : Duration) :
    (first.longer second).nanoseconds =
      max first.nanoseconds second.nanoseconds := by
  unfold longer
  split
  · exact (Nat.max_eq_right ‹_›).symm
  · exact (Nat.max_eq_left (by omega)).symm

theorem seconds_lt (duration : Duration) :
    duration.seconds < UInt64.size := by
  have bound := duration.le_limit
  unfold limit UInt64.size at bound
  unfold seconds UInt64.size
  omega

theorem fraction_lt (duration : Duration) :
    duration.fraction < 1000000000 :=
  Nat.mod_lt _ (by decide)

/-- The double in seconds and nanoseconds. If the nanoseconds make up a second,
it is carried over. -/
theorem double_of_lt {duration : Duration}
    (fits : 2 * duration.seconds + 2 * duration.fraction / 1000000000 <
      UInt64.size) :
    duration.double.seconds =
        2 * duration.seconds + 2 * duration.fraction / 1000000000 ∧
      duration.double.fraction = 2 * duration.fraction % 1000000000 := by
  unfold seconds fraction UInt64.size at *
  simp only [double, saturate, limit, UInt64.size]
  omega

/-- The double is cut off if its seconds do not fit. -/
theorem double_of_le {duration : Duration}
    (exceeds : UInt64.size ≤
      2 * duration.seconds + 2 * duration.fraction / 1000000000) :
    duration.double.nanoseconds = limit := by
  unfold seconds fraction UInt64.size at exceeds
  simp only [double, saturate, limit, UInt64.size]
  omega

end Duration

namespace Settings

variable (settings : Settings)

def delay : Nat → Duration
  | 0 => .zero
  | pass + 1 => settings.nextDelay (delay pass)

theorem delay_of_fixed (fixed : settings.backoff = .fixed) (pass : Nat) :
    settings.delay (pass + 1) = settings.retryDelay := by
  rw [delay, nextDelay, fixed]

theorem nanoseconds_delay (exponential : settings.backoff = .exponential)
    (pass : Nat) :
    (settings.delay (pass + 1)).nanoseconds =
      min (settings.retryDelay.nanoseconds * 2 ^ pass) Duration.limit := by
  have bound := settings.retryDelay.le_limit
  induction pass with
  | zero =>
      rw [delay, nextDelay, exponential]
      simp only [Duration.nanoseconds_longer, delay, Duration.double,
        Duration.saturate, Duration.zero]
      omega
  | succ pass induction =>
      have grown : settings.retryDelay.nanoseconds ≤
          settings.retryDelay.nanoseconds * 2 ^ pass :=
        Nat.le_mul_of_pos_right _ (Nat.two_pow_pos pass)
      rw [delay, nextDelay, exponential]
      simp only [Duration.nanoseconds_longer, Duration.double,
        Duration.saturate, induction, Nat.pow_succ, ← Nat.mul_assoc]
      omega

example : (Settings.delay {} 3).nanoseconds = 20000000000 := by
  decide +kernel

theorem nanoseconds_delay_le_succ (pass : Nat) :
    (settings.delay pass).nanoseconds ≤
      (settings.delay (pass + 1)).nanoseconds := by
  cases pass with
  | zero => exact Nat.zero_le _
  | succ pass =>
      cases backoff : settings.backoff with
      | fixed =>
          rw [delay_of_fixed settings backoff, delay_of_fixed settings backoff]
      | exponential =>
          rw [nanoseconds_delay settings backoff,
            nanoseconds_delay settings backoff, Nat.pow_succ,
            ← Nat.mul_assoc]
          omega

theorem monotone_delay :
    Monotone fun pass => (settings.delay pass).nanoseconds :=
  monotone_nat_of_le_succ settings.nanoseconds_delay_le_succ

theorem delay_of_zero (none : settings.retryDelay = .zero) (pass : Nat) :
    settings.delay pass = .zero := by
  cases pass with
  | zero => rfl
  | succ pass =>
      cases backoff : settings.backoff with
      | fixed => rw [delay_of_fixed settings backoff, none]
      | exponential =>
          rw [Duration.eq_zero_iff, nanoseconds_delay settings backoff, none]
          simp [Duration.zero]

end Settings

structure SteadyDelays (settings : Settings) (delays : List Duration) :
    Prop where
  fixed : settings.backoff = .fixed →
    ∀ delay ∈ delays, delay = settings.retryDelay
  exponential : settings.backoff = .exponential →
    ∀ (place : Nat) (delay : Duration), delays[place]? = some delay →
      delay.nanoseconds =
        min (settings.retryDelay.nanoseconds * 2 ^ place) Duration.limit
  ordered : delays.Pairwise fun earlier later =>
    earlier.nanoseconds ≤ later.nanoseconds
  fits : ∀ delay ∈ delays,
    delay.seconds < UInt64.size ∧ delay.fraction < 1000000000
  zero : settings.retryDelay = .zero → ∀ delay ∈ delays, delay = .zero

theorem Settings.steadyDelays (settings : Settings) (count : Nat) :
    SteadyDelays settings ((List.range' 1 count).map settings.delay) where
  fixed := by
    intro fixed delay member
    rcases List.mem_map.mp member with ⟨pass, range, rfl⟩
    rw [List.mem_range'_1] at range
    rw [← Nat.sub_add_cancel range.1]
    exact settings.delay_of_fixed fixed _
  exponential := by
    intro exponential place delay found
    rw [List.getElem?_map, Option.map_eq_some_iff] at found
    rcases found with ⟨pass, found, rfl⟩
    have bound := (List.getElem?_eq_some_iff.mp found).1
    rw [List.length_range'] at bound
    rw [List.getElem?_range' bound, Option.some.injEq, Nat.one_mul,
      Nat.add_comm] at found
    rw [← found]
    exact settings.nanoseconds_delay exponential place
  ordered := by
    rw [List.pairwise_map]
    apply (List.pairwise_lt_range' 1).imp
    intro earlier later before
    exact settings.monotone_delay (Nat.le_of_lt before)
  fits := fun delay _ => ⟨delay.seconds_lt, delay.fraction_lt⟩
  zero := by
    intro none delay member
    rcases List.mem_map.mp member with ⟨pass, _, rfl⟩
    exact settings.delay_of_zero none pass

end ClusterRouting
