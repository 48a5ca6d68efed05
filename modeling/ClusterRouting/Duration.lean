/-! Lengths of time, in nanoseconds. The longest one has 2 ^ 64 - 1 seconds and
a fraction just short of another second. -/

namespace ClusterRouting

def Duration.limit : Nat := UInt64.size * 1000000000 - 1

structure Duration where
  nanoseconds : Nat
  le_limit : nanoseconds ≤ Duration.limit
  deriving DecidableEq

namespace Duration

def zero : Duration := ⟨0, Nat.zero_le _⟩

def saturate (nanoseconds : Nat) : Duration :=
  ⟨min nanoseconds limit, Nat.min_le_right ..⟩

def ofSeconds (seconds : UInt64) (nanoseconds : Fin 1000000000) : Duration :=
  ⟨seconds.toNat * 1000000000 + nanoseconds.val, by
    have := seconds.toNat_lt
    have := nanoseconds.isLt
    unfold limit UInt64.size
    omega⟩

def ofMilliseconds (milliseconds : UInt64) : Duration :=
  ⟨milliseconds.toNat * 1000000, by
    have := milliseconds.toNat_lt
    unfold limit UInt64.size
    omega⟩

def milliseconds (duration : Duration) : Nat :=
  duration.nanoseconds / 1000000

def double (duration : Duration) : Duration :=
  saturate (2 * duration.nanoseconds)

def longer (first second : Duration) : Duration :=
  if first.nanoseconds ≤ second.nanoseconds then second else first

def seconds (duration : Duration) : Nat :=
  duration.nanoseconds / 1000000000

def fraction (duration : Duration) : Nat :=
  duration.nanoseconds % 1000000000

end Duration

end ClusterRouting
