/-!
Lengths of time to the nanosecond.
-/

namespace Vigil

/-- Whole seconds and the nanoseconds beyond them. -/
structure Duration where
  seconds : Nat
  nanos : Fin 1000000000
  deriving DecidableEq, Repr

namespace Duration

/-- Surplus nanoseconds become seconds. -/
def ofNanos (nanos : Nat) : Duration :=
  ⟨nanos / 1000000000, ⟨nanos % 1000000000, Nat.mod_lt _ (by decide)⟩⟩

def ofMillis (ms : Nat) : Duration := ofNanos (ms * 1000000)

def toNanos (d : Duration) : Nat := d.seconds * 1000000000 + d.nanos

/-- The whole milliseconds in a duration. -/
def toMillis (d : Duration) : Nat := d.seconds * 1000 + d.nanos / 1000000

/-- The milliseconds after which a duration is over. -/
def toMillisUp (d : Duration) : Nat := (d.toNanos + 999999) / 1000000

theorem toMillis_eq (d : Duration) : d.toMillis = d.toNanos / 1000000 := by
  unfold toMillis toNanos
  omega

theorem toNanos_ofNanos (n : Nat) : (ofNanos n).toNanos = n := by
  simp [ofNanos, toNanos]
  omega

@[simp] theorem toMillis_ofMillis (ms : Nat) : (ofMillis ms).toMillis = ms := by
  rw [toMillis_eq, ofMillis, toNanos_ofNanos]
  omega

@[simp] theorem toMillisUp_ofMillis (ms : Nat) : (ofMillis ms).toMillisUp = ms := by
  rw [toMillisUp, ofMillis, toNanos_ofNanos]
  omega

end Duration

end Vigil
