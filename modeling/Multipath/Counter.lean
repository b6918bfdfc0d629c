/-!
# Bounded counters

Counts of consecutive events stop at the largest 32-bit number, so that a long streak never looks
like a fresh one. Rebuild epochs and frame totals run round instead: they are compared for equality
or subtracted, never read as a streak.
-/

namespace Multipath.Counter

/-- The largest value of a streak counter. -/
def limit : Nat := UInt32.size - 1

/-- One more event, up to the limit. -/
def bump (n : Nat) : Nat := min (n + 1) limit

def nextEpoch (n : Nat) : Nat := (n + 1) % UInt32.size

/-- A frame total after one more frame. -/
def nextTotal (n : Nat) : Nat := (n + 1) % UInt64.size

theorem bump_le_limit (n : Nat) : bump n ≤ limit := Nat.min_le_right _ _

theorem bump_pos (n : Nat) : 0 < bump n := by
  simp only [bump, limit, UInt32.size]
  omega

theorem bump_of_lt {n : Nat} (h : n < limit) : bump n = n + 1 := by
  unfold bump
  omega

theorem nextEpoch_lt (n : Nat) : nextEpoch n < UInt32.size := Nat.mod_lt _ (by decide)

theorem nextEpoch_ne (n : Nat) : nextEpoch n ≠ n := by
  simp only [nextEpoch, UInt32.size]
  omega

theorem nextTotal_of_lt {n : Nat} (h : n + 1 < UInt64.size) : nextTotal n = n + 1 :=
  Nat.mod_eq_of_lt h

end Multipath.Counter
