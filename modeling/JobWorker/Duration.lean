/-
Durations.

A duration is a number of whole seconds of 64 bits and the nanoseconds past them.  On the wire it is
a number of milliseconds, which can take more than 64 bits: the highest bits are lost there.
-/

namespace JobWorker

/-- How many nanoseconds make a second. -/
abbrev nanosPerSecond : Nat := 1000000000

/-- A length of time. -/
structure Duration where
  secs : UInt64
  nanos : Fin nanosPerSecond
  deriving DecidableEq, Repr, Inhabited

namespace Duration

/-- No time at all. -/
def zero : Duration := ⟨0, 0⟩

/-- A duration of whole seconds. -/
def ofSecs (secs : UInt64) : Duration := ⟨secs, 0⟩

/-- A duration of whole milliseconds. -/
def ofMillis (millis : UInt64) : Duration :=
  ⟨millis / 1000, ⟨(millis % 1000).toNat * 1000000, by
    have : (millis % 1000).toNat < 1000 := by
      rw [UInt64.toNat_mod]
      exact Nat.mod_lt _ (by decide)
    rw [nanosPerSecond]
    omega⟩⟩

/-- The nanoseconds that a duration lasts. -/
def totalNanos (d : Duration) : Nat := d.secs.toNat * nanosPerSecond + d.nanos

/-- The whole milliseconds that a duration lasts. -/
def millis (d : Duration) : Nat := d.secs.toNat * 1000 + d.nanos / 1000000

/-- The milliseconds as an unsigned word. -/
def millisWord (d : Duration) : UInt64 := UInt64.ofNat d.millis

/-- The milliseconds as a signed word. -/
def signedMillisWord (d : Duration) : Int64 := Int64.ofInt d.millis

/-- Whether a duration lasts no time at all. -/
def isZero (d : Duration) : Bool := d = zero

theorem isZero_iff {d : Duration} : d.isZero = true ↔ d = zero := by simp [isZero]

theorem millis_ofMillis (n : UInt64) : (ofMillis n).millis = n.toNat := by
  simp only [millis, ofMillis, UInt64.toNat_div, UInt64.toNat_mod]
  simp only [show (1000 : UInt64).toNat = 1000 from rfl]
  omega

end Duration

end JobWorker
