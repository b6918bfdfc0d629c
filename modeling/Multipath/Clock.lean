/-!
# Virtual time

An instant is a number of microseconds since the clock was made. The clock only moves when told to.
One step is at most `2 ^ 64 - 1` microseconds and the reading runs round at `2 ^ 64`.
-/

namespace Multipath

/-- Microseconds since the clock was made. -/
abbrev Instant := Nat

structure Clock where
  reading : Instant := 0
  deriving DecidableEq, Repr

namespace Clock

/-- Readings run round here. -/
def span : Nat := UInt64.size

def advance (clock : Clock) (microseconds : Nat) : Clock :=
  ⟨(clock.reading + min microseconds (span - 1)) % span⟩

def advanceMillis (clock : Clock) (milliseconds : Nat) : Clock :=
  clock.advance (milliseconds * 1000)

theorem reading_advance_of_lt {clock : Clock} {us : Nat} (h : clock.reading + us < span) :
    (clock.advance us).reading = clock.reading + us := by
  have hus : us ≤ span - 1 := Nat.le_sub_one_of_lt (Nat.lt_of_le_of_lt (Nat.le_add_left ..) h)
  rw [advance, Nat.min_eq_left hus, Nat.mod_eq_of_lt h]

/-- A step that does not run round. -/
def Fits (clock : Clock) (microseconds : Nat) : Prop :=
  clock.reading + min microseconds (span - 1) < span

theorem reading_le_advance {clock : Clock} {us : Nat} (fits : clock.Fits us) :
    clock.reading ≤ (clock.advance us).reading := by
  rw [advance, Nat.mod_eq_of_lt fits]
  exact Nat.le_add_right ..

end Clock

def millis (n : Nat) : Nat := n * 1000

theorem Clock.reading_advanceMillis_of_lt {clock : Clock} {ms : Nat}
    (h : clock.reading + millis ms < span) :
    (clock.advanceMillis ms).reading = clock.reading + millis ms :=
  reading_advance_of_lt h

end Multipath
