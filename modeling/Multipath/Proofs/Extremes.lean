import Multipath.Proofs.Doubles
import Multipath.Random.Generator

/-! # Zero and one

Two doubles come out of a calculation exactly as they would on paper. Nothing out of a number is zero
and a number out of itself is one (`zero_div`, `div_self`), for all that can be counted in 64 bits
(`parts_whole`); and no draw is below zero (`Random.Generator.unit_not_lt`), since taking one from a
number that is no smaller cannot turn the sign.
-/

namespace Multipath.Doubles

open Float.Model (Format UnpackedFloat totalExponent)
open Float.Model.UnpackedFloat

theorem eq_of_parts {x y : Float} (same : parts x = parts y) : x = y := by
  obtain ⟨⟨⟨a⟩, valid⟩⟩ := x
  obtain ⟨⟨⟨b⟩, valid'⟩⟩ := y
  obtain rfl : a = b := (unpack_inj_of_valid valid valid').1 same
  rfl

theorem parts_of_beq_zero {p : Float} (zero : (p == 0.0) = true) : ∃ s, parts p = .zero s := by
  change (parts p).beq (.zero .positive) = true at zero
  obtain ⟨-, -, same | ⟨-, ⟨⟩⟩ | ⟨same, -⟩⟩ := (beq_iff_ne_notANumber_and_eq _ _).1 zero
  · exact ⟨_, same⟩
  · exact ⟨_, same⟩

theorem not_lt_zero_of_le {x : Float} (above : 0.0 ≤ x) : ¬ x < 0.0 := by
  rw [le_iff, parts_zero] at above
  rw [lt_iff, parts_zero]
  cases hx : parts x with
  | notANumber => nofun
  | zero s => nofun
  | infinity s => cases s <;> simp [hx, UnpackedFloat.compare] at above ⊢
  | finite s m e h => cases s <;> simp [hx, UnpackedFloat.compare] at above ⊢

theorem not_le_zero_of_lt {x : Float} (above : 0.0 < x) : ¬ x ≤ 0.0 := by
  rw [zero_lt_iff] at above
  rw [le_iff, parts_zero]
  cases hx : parts x with
  | notANumber => simp [hx, positive] at above
  | zero s => simp [hx, positive] at above
  | infinity s => cases s <;> simp [hx, positive, UnpackedFloat.compare] at above ⊢
  | finite s m e h => cases s <;> simp [hx, positive, UnpackedFloat.compare] at above ⊢

/-! ## The sign of a difference -/

/-- Neither below zero nor a zero with a sign. -/
def unsigned : UnpackedFloat → Bool
  | .infinity s | .zero s | .finite s .. => s == .positive
  | .notANumber => true

theorem not_lt_zero {x p : Float} (above : unsigned (parts x) = true) (zero : (p == 0.0) = true) :
    ¬ x < p := by
  obtain ⟨s, hp⟩ := parts_of_beq_zero zero
  rw [lt_iff, hp]
  cases hx : parts x with
  | notANumber => nofun
  | zero s => nofun
  | infinity s =>
      cases s with
      | positive => nofun
      | negative => simp [hx, unsigned] at above
  | finite s m e h =>
      cases s with
      | positive => nofun
      | negative => simp [hx, unsigned] at above

theorem unsigned_components (e : BitVec 11) (m : BitVec 52) :
    unsigned (UnpackedFloat.unpack Format.binary64 (packComponents Format.binary64 .positive e m)) =
      true := by
  have sign : Sign.ofBitVec Sign.positive.toBitVec = .positive := rfl
  simp only [UnpackedFloat.unpack, unpackMantissa_packComponents, unpackExponent_packComponents,
    Doubles.unpackSign_packComponents, sign]
  split
  · split <;> rfl
  · split
    · split <;> rfl
    · rfl

theorem unsigned_pack {u : UnpackedFloat} (above : unsigned u = true) :
    unsigned (parts (.ofModel (.pack u))) = true := by
  change unsigned (UnpackedFloat.unpack _ (UnpackedFloat.pack _ u)) = true
  cases u with
  | notANumber => exact unsigned_components _ _
  | infinity s =>
      obtain rfl : s = .positive := eq_of_beq above
      exact unsigned_components _ _
  | zero s =>
      obtain rfl : s = .positive := eq_of_beq above
      exact unsigned_components _ _
  | finite s m e h =>
      obtain rfl : s = .positive := eq_of_beq above
      simp only [UnpackedFloat.pack]
      split
      · exact unsigned_components _ _
      · split <;> exact unsigned_components _ _

theorem unsigned_round (m : Nat) (e : Int) :
    unsigned (UnpackedFloat.round Format.binary64 .positive m e) = true := by
  simp only [UnpackedFloat.round, roundWithAccuracy]
  split <;> rfl

theorem unsigned_normalize {m : Int} (above : 0 ≤ m) (e : Int) :
    unsigned (UnpackedFloat.normalize Format.binary64 m e .positive) = true := by
  unfold UnpackedFloat.normalize
  split
  · rename_i less
    have below : m < 0 := Int.compare_eq_lt.1 less
    omega
  · rfl
  · exact unsigned_round _ _

/-- The bits of a number from one up to two. -/
theorem bits_above_one (fraction : UInt64) (short : fraction.toNat < 2 ^ 52) :
    (0x3ff0000000000000 ||| fraction).toBitVec =
      packComponents Format.binary64 .positive 1023#11 (.ofNat 52 fraction.toNat) := by
  have left : (0x3ff0000000000000 ||| fraction).toNat = 1023 <<< 52 + fraction.toNat :=
    (Nat.shiftLeft_add_eq_or_of_lt short 1023).symm
  have right : (packComponents Format.binary64 .positive 1023#11 (.ofNat 52 fraction.toNat)).toNat =
      1023 <<< 52 ||| fraction.toNat % 2 ^ 52 := rfl
  refine BitVec.eq_of_toNat_eq (left.trans ?_)
  rw [right, Nat.mod_eq_of_lt short, Nat.shiftLeft_add_eq_or_of_lt short]

theorem parts_above_one (fraction : UInt64) (short : fraction.toNat < 2 ^ 52) :
    ∃ m h, parts (Float.ofBits (0x3ff0000000000000 ||| fraction)) = .finite .positive m (-52) h ∧
      2 ^ 52 ≤ m := by
  have bits := bits_above_one fraction short
  generalize BitVec.ofNat 52 fraction.toNat = digits at bits
  have inside : (1023#11 : BitVec 11) ≠ -1#_ := by decide
  have above : (1023#11 : BitVec 11) ≠ 0#_ := by decide
  have valid : Format.binary64.Valid (packComponents Format.binary64 .positive 1023#11 digits) := by
    constructor
    intro top
    rw [unpackExponent_packComponents] at top
    exact absurd top inside
  have packed : parts (Float.ofBits (0x3ff0000000000000 ||| fraction)) =
      UnpackedFloat.unpack Format.binary64 (UnpackedFloat.pack Format.binary64
        (UnpackedFloat.unpack Format.binary64 (0x3ff0000000000000 ||| fraction).toBitVec)) := rfl
  rw [bits, pack_unpack_of_valid valid] at packed
  have sign : Sign.ofBitVec Sign.positive.toBitVec = .positive := rfl
  simp only [UnpackedFloat.unpack, unpackMantissa_packComponents, unpackExponent_packComponents,
    Doubles.unpackSign_packComponents, sign, inside, above, if_false] at packed
  exact ⟨_, _, packed, append_toNat digits ▸ Nat.le_add_right ..⟩

/-- One taken from a number that is no smaller. -/
theorem unsigned_sub_one {x : Float} {m : Nat} {h : 0 < m}
    (hx : parts x = .finite .positive m (-52) h) (above : 2 ^ 52 ≤ m) :
    unsigned (parts (x - 1.0)) = true := by
  have packed : x - 1.0 =
      .ofModel (.pack (UnpackedFloat.sub Format.binary64 (parts x) (parts 1.0))) := rfl
  have difference : UnpackedFloat.sub Format.binary64 (.finite .positive m (-52) h)
      (.finite .positive (2 ^ 52) (-52) (by decide)) =
      UnpackedFloat.normalize Format.binary64 (m - (2 ^ 52 : Nat)) (-52) .positive := rfl
  rw [packed, hx, parts_one, difference]
  exact unsigned_pack (unsigned_normalize (by omega) _)

/-! ## What is counted -/

theorem roundedMantissa_le (em : ExtendedMantissa) : em.roundedMantissa ≤ em.mantissa + 1 := by
  obtain ⟨m, half, more⟩ := em
  simp only [ExtendedMantissa.roundedMantissa, ExtendedMantissa.accuracy]
  cases half <;> cases more <;> simp only [Accuracy.roundToNearestEven] <;> omega

theorem add_lost (m : Nat) (e : Int) :
    e + lost m e = max e (Format.binary64.targetExponent (totalExponent m e)) := by
  unfold lost
  omega

/-- Rounding raises the exponent by one at most, once the number is short enough. -/
theorem round_high {s : Sign} {m m' : Nat} {e e' : Int} {h : 0 < m'}
    (large : 2 ^ (-1074 - e).toNat ≤ m)
    (rounded : roundWithAccuracy Format.binary64 s m e .exact = .finite s m' e' h) :
    e' ≤ e + lost m e + 1 := by
  obtain ⟨pos, short, low⟩ := shift_bounds large
  obtain ⟨first, reached⟩ := shiftToTargetExponent_exact m e
  unfold roundWithAccuracy at rounded
  generalize shiftToTargetExponent Format.binary64 m e .exact = shifted at first reached rounded
  obtain ⟨em, e₁⟩ := shifted
  simp only at first reached
  subst reached
  obtain ⟨second, reached'⟩ := shiftToTargetExponent_exact em.roundedMantissa (e + lost m e)
  have longest : em.roundedMantissa ≤ 2 ^ 53 :=
    Nat.le_trans (roundedMantissa_le em) (first ▸ short)
  have digits : em.roundedMantissa.log2 < 54 := by
    rcases Nat.eq_zero_or_pos em.roundedMantissa with none_ | some_
    · simp [none_]
    · exact (Nat.log2_lt (Nat.ne_of_gt some_)).2 (Nat.lt_of_le_of_lt longest (by decide))
  simp only [second, reached'] at rounded
  split at rounded
  · cases rounded
  · simp only [finite.injEq] at rounded
    rw [← rounded.2.2, add_lost, targetExponent_eq]
    unfold totalExponent
    omega

theorem isFinite_components {e : BitVec 11} {m : BitVec 52} (low : e.toNat < 2047) :
    (UnpackedFloat.unpack Format.binary64
      (packComponents Format.binary64 .positive e m)).isFinite = true := by
  have inside : e ≠ -1#_ := by
    rintro rfl
    exact absurd low (by decide)
  simp only [UnpackedFloat.unpack, unpackMantissa_packComponents, unpackExponent_packComponents,
    inside, if_false]
  split
  · split <;> rfl
  · rfl

theorem isFinite_pack {m : Nat} {e : Int} (h : 0 < m) (high : e ≤ 971) :
    (parts (.ofModel (.pack (.finite .positive m e h)))).isFinite = true := by
  have packed : parts (.ofModel (.pack (.finite .positive m e h))) =
      UnpackedFloat.unpack Format.binary64
        (UnpackedFloat.pack Format.binary64 (.finite .positive m e h)) := rfl
  have wide : Format.binary64.mantissaBits = 53 := rfl
  simp only [UnpackedFloat.pack, bias_eq, wide] at packed
  split at packed
  · omega
  · split at packed
    · rw [packed]
      refine isFinite_components ?_
      rw [BitVec.toNat_ofNat]
      omega
    · rw [packed]
      exact isFinite_components (by decide)

theorem parts_of_finite {x : Float} (above : 0.0 < x) (finite : (parts x).isFinite = true) :
    ∃ m e h, parts x = .finite .positive m e h := by
  refine (parts_of_above above).resolve_left fun hx => ?_
  rw [hx] at finite
  cases finite

theorem log2_shiftLeft {n : Nat} (some_ : n ≠ 0) (k : Nat) : (n <<< k).log2 = n.log2 + k := by
  rw [Nat.shiftLeft_eq, Nat.log2_eq_iff (Nat.mul_ne_zero some_ (Nat.two_pow_pos k).ne')]
  constructor
  · rw [Nat.pow_add]
    exact Nat.mul_le_mul_right _ (Nat.log2_self_le some_)
  · rw [Nat.add_right_comm, Nat.pow_add]
    exact Nat.mul_lt_mul_of_pos_right Nat.lt_log2_self (Nat.two_pow_pos k)

/-- A count is made a double by rounding it. -/
theorem toFloat_eq {n : Nat} (some_ : 0 < n) (few : n < UInt64.size) :
    n.toUInt64.toFloat = .ofModel (.pack (UnpackedFloat.round Format.binary64 .positive n 0)) := by
  have counted : n.toUInt64.toNat = n := Nat.mod_eq_of_lt few
  have normal : n.toUInt64.toFloat = .ofModel (.pack
      (UnpackedFloat.normalize Format.binary64 n.toUInt64.toNat 0 .positive)) := rfl
  have more : compare (n : Int) 0 = .gt := Int.compare_eq_gt.2 (by omega)
  rw [normal, counted]
  simp only [UnpackedFloat.normalize, more, Int.toNat_natCast]

/-- A count, of less than `2 ^ 64`, as a double. -/
theorem parts_whole {n : Nat} (some_ : 0 < n) (few : n < UInt64.size) :
    ∃ m e h, parts n.toUInt64.toFloat = .finite .positive m e h := by
  have digits : n.log2 < 64 := (Nat.log2_lt (Nat.ne_of_gt some_)).2 few
  have target := targetExponent_eq (totalExponent n 0)
  unfold totalExponent at target
  generalize shift : (0 - Format.binary64.targetExponent (n.log2 + 1 + 0)).toNat = k at target
  have large : 2 ^ (-1074 - (0 - k : Int)).toNat ≤ n <<< k := by
    have none_ : (-1074 - (0 - k : Int)).toNat = 0 := by omega
    rw [none_, Nat.shiftLeft_eq]
    exact Nat.mul_pos some_ (Nat.two_pow_pos k)
  obtain ⟨m, e, h, rounded, short, low⟩ := round_bounds (s := .positive) large
  have high : e ≤ 971 := by
    have raised := round_high large rounded
    have same : (n <<< k).log2 = n.log2 + k := log2_shiftLeft (Nat.ne_of_gt some_) k
    rw [add_lost, targetExponent_eq] at raised
    unfold totalExponent at raised
    omega
  have whole : n.toUInt64.toFloat = .ofModel (.pack (.finite .positive m e h)) := by
    rw [toFloat_eq some_ few, ← rounded]
    simp only [UnpackedFloat.round, decreaseExponent, totalExponent, shift]
  rw [whole]
  exact parts_of_finite (zero_lt_pack h short low) (isFinite_pack h high)

theorem zero_div {x : Float} {m : Nat} {e : Int} {h : 0 < m} (hx : parts x = .finite .positive m e h) :
    0.0 / x = 0.0 := by
  have packed : 0.0 / x =
      .ofModel (.pack (UnpackedFloat.div Format.binary64 (.zero .positive) (parts x))) := rfl
  rw [packed, hx]
  rfl

theorem div_self {x : Float} {m : Nat} {e : Int} {h : 0 < m} (hx : parts x = .finite .positive m e h) :
    x / x = 1.0 := by
  have packed : x / x =
      .ofModel (.pack (UnpackedFloat.div Format.binary64 (parts x) (parts x))) := rfl
  have quotient : divCore Format.binary64 m e m e = (2 ^ 53, -53, .exact) := by
    have target : min 0 (Format.binary64.targetExponent 0) = -53 := rfl
    simp only [divCore, Int.sub_self, target]
    simp [Nat.shiftLeft_eq, h, accuracyOfFraction]
  rw [packed, hx]
  simp only [UnpackedFloat.div, quotient]
  rfl

end Multipath.Doubles

namespace Multipath.Random.Generator

open Multipath.Doubles in
/-- No draw is below zero. -/
theorem unit_not_lt (g : Generator) {p : Float} (zero : (p == 0.0) = true) : ¬ g.unit.1 < p := by
  have short : (g.key.pair g.drawn >>> 12).toNat < 2 ^ 52 := by
    rw [UInt64.toNat_shiftRight, Nat.shiftRight_eq_div_pow]
    exact Nat.div_lt_of_lt_mul (g.key.pair g.drawn).toNat_lt
  obtain ⟨m, h, hx, above⟩ := parts_above_one _ short
  exact not_lt_zero (unsigned_sub_one hx above) zero

end Multipath.Random.Generator
