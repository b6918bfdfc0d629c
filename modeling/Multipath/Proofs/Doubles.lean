import Mathlib
import Multipath.Circuit.Cooldown

/-! # Doubles that stay positive

A weight grows by a factor above one and must not come out as zero on the way. The smallest doubles
have few digits left, so this is a fact on rounding: a product loses its last digits, but as long as it
is no smaller than the smallest double the first one stays (`round_bounds`). What is rounded that way
is packed into a double that is again positive (`zero_lt_pack`), and `zero_lt_mul` puts the two
together.
-/

namespace Multipath.Doubles

open Float.Model (Format UnpackedFloat totalExponent)
open Float.Model.UnpackedFloat

/-- Sign, digits and exponent of a double. -/
def parts (x : Float) : UnpackedFloat := x.toModel.unpack

theorem parts_zero : parts 0.0 = .zero .positive := rfl

theorem parts_one : parts 1.0 = .finite .positive (2 ^ 52) (-52) (by decide) := rfl

/-! ## Order -/

theorem lt_iff {x y : Float} : x < y ↔ (parts x).compare (parts y) = some .lt := by
  change decide (x.toModel < y.toModel) = true ↔ _
  simp only [decide_eq_true_eq]
  change (parts x).lt (parts y) = true ↔ _
  simp [UnpackedFloat.lt]

theorem le_iff {x y : Float} :
    x ≤ y ↔ ((parts x).compare (parts y)).any Ordering.isLE = true := by
  change decide (x.toModel ≤ y.toModel) = true ↔ _
  simp only [decide_eq_true_eq]
  rfl

theorem le_of_lt {x y : Float} (h : x < y) : x ≤ y := by
  rw [le_iff, lt_iff.1 h]
  rfl

theorem compare_notANumber (u : UnpackedFloat) : u.compare .notANumber = none := by
  cases u <;> rfl

theorem isNaN_of_le {x y : Float} (h : x ≤ y) : y.isNaN = false := by
  rw [le_iff] at h
  change (parts y).isNaN = false
  cases hy : parts y with
  | notANumber => simp [hy, compare_notANumber] at h
  | infinity s => rfl
  | zero s => rfl
  | finite s m e h => rfl

def positive : UnpackedFloat → Bool
  | .infinity .positive | .finite .positive .. => true
  | _ => false

theorem zero_lt_iff {x : Float} : 0.0 < x ↔ positive (parts x) = true := by
  rw [lt_iff, parts_zero]
  cases parts x with
  | infinity s => cases s <;> simp [UnpackedFloat.compare, positive]
  | notANumber => simp [UnpackedFloat.compare, positive]
  | zero s => simp [UnpackedFloat.compare, positive]
  | finite s m e h => cases s <;> simp [UnpackedFloat.compare, positive]

/-- Above zero nothing but numbers and infinity is found. -/
theorem parts_of_above {x : Float} (above : 0.0 < x) :
    parts x = .infinity .positive ∨ ∃ m e h, parts x = .finite .positive m e h := by
  rw [zero_lt_iff] at above
  cases hx : parts x with
  | notANumber => simp [hx, positive] at above
  | zero s => simp [hx, positive] at above
  | infinity s =>
      cases s with
      | positive => exact .inl rfl
      | negative => simp [hx, positive] at above
  | finite s m e h =>
      cases s with
      | positive => exact .inr ⟨m, e, h, rfl⟩
      | negative => simp [hx, positive] at above

/-! ## Bit patterns -/

theorem bias_eq : (Format.binary64.exponentBias : Int) = 1023 := rfl

theorem append_toNat (m : BitVec 52) : (1#1 ++ m).toNat = 2 ^ 52 + m.toNat := by
  rw [BitVec.toNat_append, ← Nat.shiftLeft_add_eq_or_of_lt m.isLt]
  simp [Nat.shiftLeft_eq]

/-- A double has all its digits, or the least exponent. -/
theorem unpack_bounds {b : BitVec Format.binary64.numBits} {s : Sign} {m : Nat} {e : Int}
    {h : 0 < m} (unpacked : UnpackedFloat.unpack Format.binary64 b = .finite s m e h) :
    -1074 ≤ e ∧ (2 ^ 52 ≤ m ∨ e = -1074) := by
  simp only [UnpackedFloat.unpack, bias_eq] at unpacked
  split at unpacked
  · split at unpacked <;> cases unpacked
  · split at unpacked
    · rename_i least
      split at unpacked
      · cases unpacked
      · simp only [finite.injEq] at unpacked
        obtain ⟨-, -, he⟩ := unpacked
        rw [least, BitVec.toNat_zero] at he
        omega
    · rename_i above
      simp only [finite.injEq] at unpacked
      obtain ⟨-, hm, he⟩ := unpacked
      rw [append_toNat] at hm
      simp only [BitVec.toNat_eq, BitVec.toNat_zero] at above
      omega

theorem unpackSign_packComponents {spec : Format} {s : Sign} {e : BitVec spec.exponentBits}
    {m : BitVec spec.mantissaBitsWithoutImplicit} :
    unpackSign (packComponents spec s e m) = s.toBitVec := by
  apply BitVec.eq_of_getLsbD_eq
  intro i hi
  obtain rfl : i = 0 := by omega
  simp [unpackSign, packComponents, BitVec.getLsbD_append, BitVec.getElem_append]

theorem zero_lt_of_components {x : Float} {e : BitVec 11} {m : BitVec 52}
    (packed : parts x =
      UnpackedFloat.unpack Format.binary64 (packComponents Format.binary64 .positive e m))
    (low : e.toNat < 2047) (nonzero : 0 < e.toNat ∨ 0 < m.toNat) : 0.0 < x := by
  have inside : e ≠ -1#_ := by
    rintro rfl
    exact absurd low (by decide)
  have sign : Sign.ofBitVec Sign.positive.toBitVec = .positive := rfl
  rw [zero_lt_iff, packed]
  simp only [UnpackedFloat.unpack, unpackMantissa_packComponents, unpackExponent_packComponents,
    unpackSign_packComponents, inside, if_false, sign]
  by_cases he : e = 0#_
  · have hm : m ≠ 0#_ := by
      rintro rfl
      simp [he] at nonzero
    simp only [he, if_true, hm, dite_false, positive]
  · simp only [he, if_false, positive]

/-- Packing makes no zero of a number that is not too long and not too low. -/
theorem zero_lt_pack {m : Nat} {e : Int} (h : 0 < m) (short : m < 2 ^ 53) (low : -1074 ≤ e) :
    0.0 < Float.ofModel (.pack (.finite .positive m e h)) := by
  have packed : parts (.ofModel (.pack (.finite .positive m e h))) =
      UnpackedFloat.unpack Format.binary64
        (UnpackedFloat.pack Format.binary64 (.finite .positive m e h)) := rfl
  have wide : Format.binary64.mantissaBits = 53 := rfl
  simp only [UnpackedFloat.pack, bias_eq, wide] at packed
  split at packed
  · rw [zero_lt_iff, packed]
    rfl
  · split at packed
    · refine zero_lt_of_components packed ?_ (.inl ?_)
      · rw [BitVec.toNat_ofNat]
        omega
      · rw [BitVec.toNat_ofNat]
        omega
    · rename_i few
      refine zero_lt_of_components packed (by decide) (.inr ?_)
      have digits : m.log2 < 53 := (Nat.log2_lt (Nat.ne_of_gt h)).2 short
      have fits : m < 2 ^ 52 := (Nat.log2_lt (Nat.ne_of_gt h)).1 (by omega)
      rw [BitVec.toNat_ofNat, Nat.mod_eq_of_lt fits]
      exact h

/-! ## Rounding -/

theorem shiftRight_mantissa (em : ExtendedMantissa) (k : Nat) :
    (em >>> k).mantissa = em.mantissa / 2 ^ k := by
  induction k with
  | zero => exact (Nat.div_one _).symm
  | succ k ih =>
      change (em >>> k).mantissa / 2 = _
      rw [ih, Nat.div_div_eq_div_mul, Nat.pow_succ]

theorem le_roundedMantissa (em : ExtendedMantissa) : em.mantissa ≤ em.roundedMantissa := by
  obtain ⟨m, half, more⟩ := em
  cases half <;> cases more <;>
    simp [ExtendedMantissa.roundedMantissa, ExtendedMantissa.accuracy,
      Accuracy.roundToNearestEven]

theorem targetExponent_eq (t : Int) :
    Format.binary64.targetExponent t = max (t - 53) (-1074) := by
  simp only [Format.targetExponent]
  rfl

/-- How many digits a number loses on its way to the exponent it is kept under. -/
def lost (m : Nat) (e : Int) : Nat :=
  (Format.binary64.targetExponent (totalExponent m e) - e).toNat

theorem shiftToTargetExponent_exact (m : Nat) (e : Int) :
    (shiftToTargetExponent Format.binary64 m e .exact).1.mantissa = m / 2 ^ lost m e ∧
      (shiftToTargetExponent Format.binary64 m e .exact).2 = e + lost m e :=
  ⟨shiftRight_mantissa _ _, rfl⟩

/-- A number no smaller than the smallest double keeps its first digit. -/
theorem shift_bounds {m : Nat} {e : Int} (large : 2 ^ (-1074 - e).toNat ≤ m) :
    0 < m / 2 ^ lost m e ∧ m / 2 ^ lost m e < 2 ^ 53 ∧ -1074 ≤ e + lost m e := by
  have nonzero : m ≠ 0 := Nat.ne_of_gt (Nat.lt_of_lt_of_le (Nat.two_pow_pos _) large)
  have digits := (Nat.le_log2 nonzero).2 large
  have target := targetExponent_eq (totalExponent m e)
  unfold totalExponent at target
  have few : lost m e ≤ m.log2 := by
    unfold lost totalExponent
    omega
  have enough : m.log2 + 1 ≤ 53 + lost m e := by
    unfold lost totalExponent
    omega
  refine ⟨Nat.div_pos ?_ (Nat.two_pow_pos _), ?_, ?_⟩
  · exact (Nat.le_log2 nonzero).1 few
  · rw [Nat.div_lt_iff_lt_mul (Nat.two_pow_pos _), ← Nat.pow_add]
    exact Nat.lt_of_lt_of_le Nat.lt_log2_self (Nat.pow_le_pow_right (by decide) enough)
  · unfold lost totalExponent
    omega

theorem round_bounds {s : Sign} {m : Nat} {e : Int} (large : 2 ^ (-1074 - e).toNat ≤ m) :
    ∃ m' e' h, roundWithAccuracy Format.binary64 s m e .exact = .finite s m' e' h ∧
      m' < 2 ^ 53 ∧ -1074 ≤ e' := by
  obtain ⟨pos, -, low⟩ := shift_bounds large
  obtain ⟨first, reached⟩ := shiftToTargetExponent_exact m e
  unfold roundWithAccuracy
  generalize shiftToTargetExponent Format.binary64 m e .exact = shifted at first reached ⊢
  obtain ⟨em, e₁⟩ := shifted
  simp only at first reached
  subst reached
  -- Rounding up can make the number one digit longer, so it is shifted once more.
  have rounded : 0 < em.roundedMantissa :=
    Nat.lt_of_lt_of_le (first ▸ pos) (le_roundedMantissa em)
  have above : (-1074 - (e + lost m e)).toNat = 0 := by omega
  obtain ⟨pos', short, low'⟩ :=
    shift_bounds (m := em.roundedMantissa) (e := e + lost m e) (by rw [above]; exact rounded)
  obtain ⟨second, reached'⟩ := shiftToTargetExponent_exact em.roundedMantissa (e + lost m e)
  simp only [second, reached', Nat.ne_of_gt pos', dite_false]
  exact ⟨_, _, pos', rfl, short, low'⟩

/-! ## Growing -/

theorem parts_of_lt_one {x : Float} (above : 0.0 < x) (below : x < 1.0) :
    ∃ m e h, parts x = .finite .positive m e h := by
  refine (parts_of_above above).resolve_left fun hx => ?_
  rw [lt_iff, hx, parts_one] at below
  cases below

theorem not_one_le_of_lt {x : Float} (above : 0.0 < x) (below : x < 1.0) : ¬ 1.0 ≤ x := by
  obtain ⟨m, e, h, hx⟩ := parts_of_lt_one above below
  rw [lt_iff, hx, parts_one] at below
  rw [le_iff, hx, parts_one]
  have turned : (compare (-52) e).then (compare (2 ^ 52) m) =
      ((compare e (-52)).then (compare m (2 ^ 52))).swap := by
    rw [Ordering.swap_then, Int.compare_swap, Nat.compare_swap]
  have less : (compare e (-52)).then (compare m (2 ^ 52)) = .lt := Option.some.inj below
  change ¬ Option.any Ordering.isLE (some ((compare (-52) e).then (compare (2 ^ 52) m))) = true
  rw [turned, less]
  decide

theorem parts_of_one_lt {f : Float} (finite : f.isFinite = true) (grows : ¬ f ≤ 1.0) :
    ∃ m e h, parts f = .finite .positive m e h ∧ 2 ^ 52 ≤ m ∧ -52 ≤ e := by
  change (parts f).isFinite = true at finite
  rw [le_iff, parts_one] at grows
  cases hf : parts f with
  | infinity s => simp [hf, UnpackedFloat.isFinite] at finite
  | notANumber => simp [hf, UnpackedFloat.isFinite] at finite
  | zero s => simp [hf, UnpackedFloat.compare, Ordering.isLE] at grows
  | finite s m e h =>
      cases s with
      | negative => simp [hf, UnpackedFloat.compare, Ordering.isLE] at grows
      | positive =>
          have high : -52 ≤ e := by
            by_cases low : e < -52
            · simp [hf, UnpackedFloat.compare, Int.compare_eq_lt.2 low, Ordering.isLE] at grows
            · exact Int.not_lt.1 low
          exact ⟨m, e, h, rfl, (unpack_bounds hf).2.resolve_right (by omega), high⟩

/-- A number between zero and one does not vanish when it is multiplied by one above one. -/
theorem zero_lt_mul {x f : Float} (above : 0.0 < x) (below : x < 1.0)
    (finite : f.isFinite = true) (grows : ¬ f ≤ 1.0) : 0.0 < x * f := by
  obtain ⟨m, e, h, hx⟩ := parts_of_lt_one above below
  obtain ⟨m', e', h', hf, full, high⟩ := parts_of_one_lt finite grows
  have low := (unpack_bounds hx).1
  have large : 2 ^ (-1074 - (e + e')).toNat ≤ m * m' :=
    calc 2 ^ (-1074 - (e + e')).toNat
        ≤ 2 ^ 52 := Nat.pow_le_pow_right (by decide) (by omega)
      _ ≤ m' := full
      _ ≤ m * m' := Nat.le_mul_of_pos_left m' h
  obtain ⟨r, q, hr, rounded, short, bottom⟩ := round_bounds (s := .positive) large
  have product : UnpackedFloat.mul Format.binary64 (parts x) (parts f) =
      .finite .positive r q hr := by
    rw [hx, hf, ← rounded]
    rfl
  have packed : x * f =
      .ofModel (.pack (UnpackedFloat.mul Format.binary64 (parts x) (parts f))) := rfl
  rw [packed, product]
  exact zero_lt_pack hr short bottom

end Multipath.Doubles

namespace Multipath.Health

/-! ## The smaller of two -/

theorem lesser_one_le (x : Float) : lesser x 1.0 ≤ 1.0 := by
  unfold lesser
  split
  · decide
  · split
    · rename_i less
      have number : Float.isNaN 1.0 = false := by decide
      rw [number, Bool.false_or] at less
      exact of_decide_eq_true less
    · decide

theorem zero_lt_lesser_one {x : Float} (above : 0.0 < x) : 0.0 < lesser x 1.0 := by
  unfold lesser
  split
  · decide
  · split
    · exact above
    · decide

end Multipath.Health
