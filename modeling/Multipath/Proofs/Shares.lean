import Multipath.Proofs.Extremes

/-! # A share is a number

A share of frames is a count over another one, and it is compared with a limit. Whatever the counts, as
long as the lower one is not zero, it is a number (`isNaN_share`): to pack a double makes it zero or
infinite at the worst. Two numbers are in order one way or the other (`lt_iff_not_le`), so a share is
below its limit exactly when it is not at or above it.
-/

namespace Multipath.Doubles

open Float.Model (Format UnpackedFloat)
open Float.Model.UnpackedFloat

/-! ## Order -/

theorem isNaN_of_ge {x y : Float} (h : x ≤ y) : x.isNaN = false := by
  rw [le_iff] at h
  change (parts x).isNaN = false
  cases hx : parts x with
  | notANumber => simp [hx, UnpackedFloat.compare] at h
  | infinity s => rfl
  | zero s => rfl
  | finite s m e h => rfl

theorem compare_swap (a b : UnpackedFloat) : b.compare a = (a.compare b).map Ordering.swap := by
  have digits : ∀ (m₁ m₂ : Nat) (e₁ e₂ : Int),
      (compare e₂ e₁).then (compare m₂ m₁) = ((compare e₁ e₂).then (compare m₁ m₂)).swap := by
    intro m₁ m₂ e₁ e₂
    rw [Ordering.swap_then, Int.compare_swap, Nat.compare_swap]
  cases a with
  | notANumber => exact compare_notANumber b
  | infinity s =>
      cases b with
      | infinity s' => cases s <;> cases s' <;> rfl
      | _ => cases s <;> rfl
  | zero s =>
      cases b with
      | infinity s' => cases s' <;> rfl
      | finite s' m e h => cases s' <;> rfl
      | _ => rfl
  | finite s m e h =>
      cases b with
      | notANumber => rfl
      | infinity s' => cases s' <;> rfl
      | zero s' => cases s <;> rfl
      | finite s' m' e' h' =>
          cases s with
          | positive =>
              cases s' with
              | positive => exact congrArg some (digits m m' e e')
              | negative => rfl
          | negative =>
              cases s' with
              | positive => rfl
              | negative => exact congrArg (some ·.swap) (digits m m' e e')

theorem compare_isSome {a b : UnpackedFloat} (ha : a.isNaN = false) (hb : b.isNaN = false) :
    ∃ o, a.compare b = some o := by
  cases a with
  | notANumber => cases ha
  | infinity s =>
      cases b with
      | notANumber => cases hb
      | _ => cases s <;> exact ⟨_, rfl⟩
  | zero s =>
      cases b with
      | notANumber => cases hb
      | zero s' => exact ⟨_, rfl⟩
      | infinity s' => cases s' <;> exact ⟨_, rfl⟩
      | finite s' m e h => cases s' <;> exact ⟨_, rfl⟩
  | finite s m e h =>
      cases b with
      | notANumber => cases hb
      | zero s' => cases s <;> exact ⟨_, rfl⟩
      | infinity s' => cases s' <;> exact ⟨_, rfl⟩
      | finite s' m' e' h' => cases s <;> cases s' <;> exact ⟨_, rfl⟩

/-- Two numbers are in order. -/
theorem lt_iff_not_le {x y : Float} (hx : x.isNaN = false) (hy : y.isNaN = false) :
    x < y ↔ ¬ y ≤ x := by
  obtain ⟨o, ordered⟩ := compare_isSome (a := parts x) (b := parts y) hx hy
  rw [lt_iff, le_iff, compare_swap (parts x), ordered]
  cases o <;> decide

/-! ## Quotients -/

theorem isNaN_components {s : Sign} {e : BitVec 11} {m : BitVec 52} (low : e.toNat < 2047) :
    (UnpackedFloat.unpack Format.binary64 (packComponents Format.binary64 s e m)).isNaN = false := by
  have inside : e ≠ -1#_ := by
    intro full
    rw [full] at low
    exact absurd low (by decide)
  simp only [UnpackedFloat.unpack, unpackMantissa_packComponents, unpackExponent_packComponents,
    inside, if_false]
  split
  · split <;> rfl
  · rfl

theorem isNaN_packedInfinity (s : Sign) :
    (UnpackedFloat.unpack Format.binary64 (packedInfinity Format.binary64 s)).isNaN = false := by
  simp only [packedInfinity, UnpackedFloat.unpack, unpackMantissa_packComponents,
    unpackExponent_packComponents, if_true]
  rfl

/-- Packing makes a number of every number. -/
theorem isNaN_pack {u : UnpackedFloat} (number : u.isNaN = false) :
    (Float.ofModel (.pack u)).isNaN = false := by
  change (UnpackedFloat.unpack _ (UnpackedFloat.pack Format.binary64 u)).isNaN = false
  cases u with
  | notANumber => cases number
  | infinity s => exact isNaN_packedInfinity s
  | zero s => exact isNaN_components (by decide)
  | finite s m e h =>
      simp only [UnpackedFloat.pack]
      split
      · exact isNaN_packedInfinity s
      · rename_i short
        split
        · refine isNaN_components ?_
          rw [BitVec.toNat_ofNat]
          omega
        · exact isNaN_components (by decide)

theorem isNaN_div_finite {s s' : Sign} {m m' : Nat} {e e' : Int} {h : 0 < m} {h' : 0 < m'} :
    (UnpackedFloat.div Format.binary64 (.finite s m e h) (.finite s' m' e' h')).isNaN = false := by
  simp only [UnpackedFloat.div, roundWithAccuracy]
  split <;> rfl

/-- A count over another one that is not zero. -/
theorem isNaN_share (n : Nat) {m : Nat} (some_ : 0 < m) (few : m < UInt64.size) :
    (n.toUInt64.toFloat / m.toUInt64.toFloat).isNaN = false := by
  obtain ⟨d, e, hd, lower⟩ := parts_whole some_ few
  -- The upper count may be anything: it is taken modulo 64 bits.
  have wraps : n.toUInt64 = (n % UInt64.size).toUInt64 := by
    refine UInt64.toNat_inj.1 ?_
    exact (Nat.mod_mod n UInt64.size).symm
  have packed : ∀ x : Float, x / m.toUInt64.toFloat =
      .ofModel (.pack (UnpackedFloat.div Format.binary64 (parts x) (parts m.toUInt64.toFloat))) :=
    fun _ => rfl
  rw [wraps]
  rcases Nat.eq_zero_or_pos (n % UInt64.size) with zero | above
  · rw [zero]
    have nothing : (0 : Nat).toUInt64.toFloat = 0.0 := rfl
    rw [nothing, zero_div lower]
    rfl
  · obtain ⟨d', e', hd', upper⟩ := parts_whole above (Nat.mod_lt n (by decide))
    rw [packed, upper, lower]
    exact isNaN_pack isNaN_div_finite

end Multipath.Doubles
