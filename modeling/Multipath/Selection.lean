import Multipath.Counter
/-!
# Choosing among ranked circuits

The pieces of a choice that know nothing of a call: the burst that keeps consecutive frames on one
circuit, the weight of each rank, and the search for the rank that a draw falls on.
-/

namespace Multipath

structure Burst where
  circuit : Nat
  frames : Nat
  deriving DecidableEq, Repr

namespace Burst

/-- One more frame on the same circuit, if the burst has room. -/
def next? (burst : Burst) (size : Nat) : Option Burst :=
  if burst.frames < size then some { burst with frames := burst.frames + 1 } else none

def start (circuit : Nat) : Burst := ⟨circuit, 1⟩

/-- A burst that has no room at any size. -/
def spent (burst : Burst) : Burst := { burst with frames := Counter.limit }

end Burst

/-- The weights in the order of the ranks: what the rank is worth times what its circuit has earned,
so that all sum to 1. When nothing is worth anything all ranks are equal. -/
def normalizedWeights (ranks earned : List Float) : List Float :=
  let effective := earned.zipIdx.map fun (e, rank) => ranks.getD rank 0.0 * e
  let total := effective.foldl (· + ·) 0.0
  if 0.0 < total then effective.map (· / total)
  else
    let share := 1.0 / (max earned.length 1).toUInt64.toFloat
    earned.map fun _ => share

theorem length_normalizedWeights (ranks earned : List Float) :
    (normalizedWeights ranks earned).length = earned.length := by
  simp only [normalizedWeights]
  split
  · simp
  · simp

/-- The first position, from `position` on, whose running sum exceeds the draw. -/
def firstAbove (draw : Float) (sum : Float) (position : Nat) : List Float → Option Nat
  | [] => none
  | w :: rest =>
    let sum := sum + w
    if draw < sum then some position else firstAbove draw sum (position + 1) rest

/-- The position that a draw falls on, the first one if rounding leaves the draw above every sum. -/
def pickWeighted (weights : List Float) (draw : Float) : Nat :=
  (firstAbove draw 0.0 0 weights).getD 0

theorem firstAbove_lt {draw sum : Float} {weights : List Float} {position found : Nat}
    (h : firstAbove draw sum position weights = some found) :
    position ≤ found ∧ found < position + weights.length := by
  induction weights generalizing sum position with
  | nil => simp [firstAbove] at h
  | cons w rest ih =>
      simp only [firstAbove] at h
      split at h
      · simp only [Option.some.injEq] at h
        simp [← h]
      · have := ih h
        simp only [List.length_cons]
        omega

theorem pickWeighted_lt {weights : List Float} (draw : Float) (h : weights ≠ []) :
    pickWeighted weights draw < weights.length := by
  unfold pickWeighted
  cases found : firstAbove draw 0.0 0 weights with
  | none => simpa using List.length_pos_iff.2 h
  | some position => simpa using (firstAbove_lt found).2

end Multipath
