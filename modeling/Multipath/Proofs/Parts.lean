import Multipath.Decimal.Binary
import Multipath.Decimal.Reading
import Multipath.Proofs.Extremes
import Multipath.Proofs.Rounding

/-! # The parts of a double

A double is its sign, its digits and its exponent. It is put together from them again (`pack_parts`),
they are found in what is put together from them if they fit (`parts_pack`), and those of a double do
(`canonical_parts`). Decimals start from the same three numbers, which they take from the bits
(`ofFloat_eq`).
-/

namespace Multipath.Doubles

open Float.Model (Format UnpackedFloat totalExponent)
open Float.Model.UnpackedFloat
open Decimal (Binary)

/-! ## Packing -/

/-- Nothing is lost when a double is put together from its parts. -/
theorem pack_parts (x : Float) : .ofModel (.pack (parts x)) = x := by
  have whole : UnpackedFloat.pack Format.binary64 (parts x) = x.toModel.toBits.toBitVec :=
    pack_unpack_of_valid x.toModel.valid
  have again : parts (.ofModel (.pack (parts x))) =
      UnpackedFloat.unpack Format.binary64 (UnpackedFloat.pack Format.binary64 (parts x)) := rfl
  rw [whole] at again
  exact eq_of_parts again

theorem unpack_components {s : Sign} {m : ℕ} {e : ℤ} (h : 0 < m) {field : BitVec 11}
    {digits : BitVec 52} (low : field.toNat < 2047)
    (normal : 0 < field.toNat → m = 2 ^ 52 + digits.toNat ∧ e = field.toNat - 1075)
    (least : field.toNat = 0 → m = digits.toNat ∧ e = -1074) :
    UnpackedFloat.unpack Format.binary64 (packComponents Format.binary64 s field digits) =
      .finite s m e h := by
  have inside : field ≠ -1#_ := by
    rintro rfl
    exact absurd low (by decide)
  have sign : Sign.ofBitVec s.toBitVec = s := by cases s <;> rfl
  simp only [UnpackedFloat.unpack, unpackMantissa_packComponents, unpackExponent_packComponents,
    unpackSign_packComponents, inside, if_false, sign, bias_eq]
  by_cases zero : field = 0#_
  · subst zero
    obtain ⟨rfl, rfl⟩ := least rfl
    have some_ : digits ≠ 0#_ := by
      rintro rfl
      exact absurd h (by decide)
    simp only [if_true, some_, dite_false]
    rfl
  · have above : 0 < field.toNat := by
      refine Nat.pos_of_ne_zero fun none_ => zero ?_
      exact BitVec.eq_of_toNat_eq none_
    obtain ⟨rfl, rfl⟩ := normal above
    simp only [zero, if_false, append_toNat]
    congr 1

/-- What fits a double is found in it again. -/
theorem parts_pack {s : Sign} {m : ℕ} {e : ℤ} (canonical : Canonical m e) (high : e ≤ 971) :
    parts (.ofModel (.pack (.finite s m e canonical.pos))) = .finite s m e canonical.pos := by
  obtain ⟨pos, short, low, full⟩ := canonical
  have wide : Format.binary64.mantissaBits = 53 := rfl
  change UnpackedFloat.unpack Format.binary64
    (UnpackedFloat.pack Format.binary64 (.finite s m e pos)) = _
  have digits : m.log2 < 53 := (Nat.log2_lt pos.ne').2 short
  simp only [UnpackedFloat.pack, bias_eq, wide]
  rw [if_neg (by omega)]
  split
  · rename_i all
    have long : 2 ^ 52 ≤ m := (Nat.le_log2 pos.ne').1 (by omega)
    generalize biased : (e + 1023 + (52 : ℕ)).toNat = k
    have field : (BitVec.ofNat 11 k).toNat = k := by
      rw [BitVec.toNat_ofNat]
      omega
    refine unpack_components pos ?_ (fun _ => ⟨?_, ?_⟩) (fun none_ => ?_)
    · rw [field]
      omega
    · rw [BitVec.toNat_ofNat]
      omega
    · rw [field]
      omega
    · rw [field] at none_
      omega
  · rename_i few
    have shorter : m < 2 ^ 52 := (Nat.log2_lt pos.ne').1 (by omega)
    have least : e = -1074 := full.resolve_left (by omega)
    refine unpack_components pos (by decide) (fun above => absurd above (by decide)) fun _ => ⟨?_, least⟩
    rw [BitVec.toNat_ofNat, Nat.mod_eq_of_lt shorter]

/-- What is too large for a double is infinite. -/
theorem parts_pack_high (s : Sign) {m : ℕ} {e : ℤ} (h : 0 < m) (high : 971 < e) :
    parts (.ofModel (.pack (.finite s m e h))) = .infinity s := by
  have wide : Format.binary64.mantissaBits = 53 := rfl
  change UnpackedFloat.unpack Format.binary64
    (UnpackedFloat.pack Format.binary64 (.finite s m e h)) = _
  simp only [UnpackedFloat.pack, bias_eq, wide]
  rw [if_pos (by omega)]
  cases s <;> rfl

/-- The highest exponent is kept for what is no number. -/
theorem toNat_lt_of_inside {field : BitVec 11} (inside : field ≠ -1#_) : field.toNat < 2047 := by
  have short := field.isLt
  have other : field.toNat ≠ 2047 := fun same => inside (BitVec.eq_of_toNat_eq same)
  omega

/-- A double has no more digits than its format, and no higher exponent. -/
theorem canonical_parts {x : Float} {s : Sign} {m : ℕ} {e : ℤ} {h : 0 < m}
    (found : parts x = .finite s m e h) : Canonical m e ∧ e ≤ 971 := by
  obtain ⟨low, full⟩ := unpack_bounds found
  change UnpackedFloat.unpack Format.binary64 x.toModel.toBits.toBitVec = _ at found
  simp only [UnpackedFloat.unpack, bias_eq] at found
  split at found
  · split at found <;> cases found
  · rename_i inside
    split at found
    · split at found
      · cases found
      · rename_i least _
        simp only [finite.injEq] at found
        obtain ⟨-, digits, exponent⟩ := found
        rw [least, BitVec.toNat_zero] at exponent
        have short : m < 2 ^ 52 := digits ▸ BitVec.isLt _
        exact ⟨⟨h, by omega, low, full⟩, by omega⟩
    · simp only [finite.injEq] at found
      obtain ⟨-, digits, exponent⟩ := found
      have short : m < 2 ^ 53 := digits ▸ BitVec.isLt _
      have top := toNat_lt_of_inside inside
      exact ⟨⟨h, short, low, full⟩, by omega⟩

/-! ## Signs -/

def isNegative : Sign → Bool
  | .positive => false
  | .negative => true

theorem parts_neg {y : Float} {m : ℕ} {e : ℤ} {h : 0 < m} (found : parts y = .finite .positive m e h) :
    parts (-y) = .finite .negative m e h := by
  obtain ⟨canonical, high⟩ := canonical_parts found
  have packed : -y = .ofModel (.pack (UnpackedFloat.neg (parts y))) := rfl
  rw [packed, found]
  exact parts_pack canonical high

/-- A double is the one without a sign, and its sign. -/
theorem exists_unsigned {x : Float} {s : Sign} {m : ℕ} {e : ℤ} {h : 0 < m}
    (found : parts x = .finite s m e h) :
    ∃ y, parts y = .finite .positive m e h ∧ Decimal.signed (isNegative s) y = x := by
  obtain ⟨canonical, high⟩ := canonical_parts found
  refine ⟨.ofModel (.pack (.finite .positive m e h)), parts_pack canonical high, eq_of_parts ?_⟩
  rw [found]
  cases s with
  | positive => exact parts_pack canonical high
  | negative => exact parts_neg (parts_pack canonical high)

/-! ## Bits -/

section Bits

variable (b : BitVec Format.binary64.numBits)

theorem toNat_unpackMantissa : (unpackMantissa b).toNat = b.toNat % 2 ^ 52 := by
  rw [unpackMantissa_def, BitVec.extractLsb'_toNat, Nat.shiftRight_zero]

theorem toNat_unpackExponent : (unpackExponent b).toNat = b.toNat / 2 ^ 52 % 2 ^ 11 := by
  rw [unpackExponent_def, BitVec.extractLsb'_toNat, Nat.shiftRight_eq_div_pow]

theorem isNegative_unpackSign :
    isNegative (Sign.ofBitVec (unpackSign b)) = decide (2 ^ 63 ≤ b.toNat) := by
  have bit : (unpackSign b).toNat = b.toNat / 2 ^ 63 := by
    have short : b.toNat < 2 ^ 64 := b.isLt
    rw [unpackSign_def, BitVec.extractLsb'_toNat, Nat.shiftRight_eq_div_pow]
    change b.toNat / 2 ^ 63 % 2 ^ 1 = _
    omega
  by_cases high : 2 ^ 63 ≤ b.toNat
  · have one : unpackSign b ≠ 0#1 := by
      intro zero
      rw [zero, BitVec.toNat_zero] at bit
      omega
    rw [Sign.ofBitVec, if_neg one, decide_eq_true high]
    rfl
  · have zero : unpackSign b = 0#1 := by
      refine BitVec.eq_of_toNat_eq ?_
      rw [bit, BitVec.toNat_zero]
      omega
    rw [Sign.ofBitVec, if_pos zero, decide_eq_false high]
    rfl

/-- The three numbers that decimals start from. -/
def binary : UnpackedFloat → Binary
  | .notANumber => .undefined
  | .infinity s => .infinite (isNegative s)
  | .zero s => .finite (isNegative s) 0 (-1074)
  | .finite s m e _ => .finite (isNegative s) m e

theorem ofBits_eq : Binary.ofBits b.toNat = binary (UnpackedFloat.unpack Format.binary64 b) := by
  have digits := toNat_unpackMantissa b
  have field := toNat_unpackExponent b
  have sign := isNegative_unpackSign b
  have none_ : unpackMantissa b = 0#_ ↔ (unpackMantissa b).toNat = 0 := BitVec.toNat_eq
  have least : unpackExponent b = 0#_ ↔ (unpackExponent b).toNat = 0 := BitVec.toNat_eq
  have top : unpackExponent b = -1#_ ↔ (unpackExponent b).toNat = 2047 := BitVec.toNat_eq
  have pow : ∀ k, Nat.pow 2 k = 2 ^ k := fun _ => rfl
  simp only [Binary.ofBits, pow, ← digits, ← field, ← sign]
  simp only [UnpackedFloat.unpack, bias_eq]
  by_cases inside : (unpackExponent b).toNat = 2047
  · rw [if_pos inside, if_pos (top.2 inside)]
    by_cases zero : (unpackMantissa b).toNat = 0
    · rw [if_pos zero, if_pos (none_.2 zero)]
      rfl
    · rw [if_neg zero, if_neg (mt none_.1 zero)]
      rfl
  · rw [if_neg inside, if_neg (mt top.1 inside)]
    by_cases low : (unpackExponent b).toNat = 0
    · rw [if_pos low, if_pos (least.2 low), low]
      by_cases zero : (unpackMantissa b).toNat = 0
      · rw [dif_pos (none_.2 zero), zero]
        rfl
      · rw [dif_neg (mt none_.1 zero)]
        rfl
    · rw [if_neg low, if_neg (mt least.1 low)]
      simp only [binary, append_toNat]
      congr 1

theorem ofFloat_eq (x : Float) : Binary.ofFloat x = binary (parts x) :=
  ofBits_eq x.toModel.toBits.toBitVec

end Bits

end Multipath.Doubles
