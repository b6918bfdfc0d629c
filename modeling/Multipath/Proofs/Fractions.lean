import Multipath.Proofs.Parts

/-! # Decimal fractions

A number with digits behind the point is a whole number over a power of ten, and reading it is a
division. Both sides of it are exact: a whole number of less than `2 ^ 53` is a double
(`exact_count`), and so are the powers of ten that a table holds (`exact_power`); larger numbers are
divided as they are. So the double that a decimal rounds to is what it is read as
(`Decimal.toDouble_eq`).
-/

namespace Multipath.Doubles

open Float.Model (Format UnpackedFloat totalExponent)
open Float.Model.UnpackedFloat

/-! ## Exact numbers -/

/-- The double is this number, and nothing is lost. -/
def Exact (x : Float) (v : ℚ) : Prop :=
  ∃ m e h, parts x = .finite .positive m e h ∧ (m : ℚ) * 2 ^ e = v

theorem exact_count {n : ℕ} (some_ : 0 < n) (short : n < 2 ^ 53) : Exact n.toUInt64.toFloat n := by
  have digits : n.log2 < 53 := (Nat.log2_lt some_.ne').2 short
  obtain ⟨k, sum⟩ := Nat.le.dest (Nat.le_of_lt_succ digits)
  have longer : (n <<< k).log2 = 52 := (log2_shiftLeft some_.ne' k).trans sum
  have pos : 0 < n <<< k := by
    rw [Nat.shiftLeft_eq]
    positivity
  have canonical : Canonical (n <<< k) (-k) := by
    refine ⟨pos, ?_, by omega, .inl ?_⟩
    · exact (Nat.log2_lt pos.ne').1 (by omega)
    · exact (Nat.le_log2 pos.ne').1 longer.ge
  have target : Format.binary64.targetExponent (totalExponent n 0) = -(k : ℤ) := by
    rw [targetExponent_eq, totalExponent]
    omega
  have settled : shiftToTargetExponent Format.binary64 (n <<< k) (-k) .exact =
      (⟨n <<< k, false, false⟩, -(k : ℤ)) := by
    refine shift_settled ?_
    rw [targetExponent_eq, totalExponent]
    omega
  have rounded : UnpackedFloat.round Format.binary64 .positive n 0 =
      .finite .positive (n <<< k) (-k) pos := by
    have amount : ((0 : ℤ) - -k).toNat = k := by omega
    have exponent : (0 : ℤ) - k = -k := by omega
    simp only [UnpackedFloat.round, target, decreaseExponent, amount, exponent]
    exact round_of_shifts _ pos settled settled
  refine ⟨n <<< k, -k, pos, ?_, ?_⟩
  · rw [toFloat_eq some_ (Nat.lt_trans short (by decide)), rounded]
    exact parts_pack canonical (by omega)
  · rw [Nat.shiftLeft_eq, zpow_neg, zpow_natCast]
    push_cast
    field_simp

/-- The parts are those of a power of ten. -/
def isPower (k : ℕ) : UnpackedFloat → Bool
  | .finite .positive m e _ => m * 2 ^ e.toNat = 10 ^ k * 2 ^ (-e).toNat
  | _ => false

theorem exact_of_isPower {x : Float} {k : ℕ} (power : isPower k (parts x) = true) :
    Exact x (10 ^ k) := by
  cases found : parts x with
  | finite s m e h =>
      rw [found] at power
      cases s with
      | negative => cases power
      | positive =>
          refine ⟨m, e, h, found, ?_⟩
          have same : m * 2 ^ e.toNat = 10 ^ k * 2 ^ (-e).toNat := of_decide_eq_true power
          have parted : (2 : ℚ) ^ e = 2 ^ e.toNat / 2 ^ (-e).toNat := by
            rw [eq_div_iff (by positivity), ← zpow_natCast, ← zpow_natCast, ← zpow_add₀ (by norm_num)]
            congr 1
            omega
          rw [parted, mul_div_assoc', div_eq_iff (by positivity)]
          exact_mod_cast same
  | infinity s => simp [found, isPower] at power
  | notANumber => simp [found, isPower] at power
  | zero s => simp [found, isPower] at power

theorem exact_power {k : ℕ} (few : k < Float.exactlyRepresentablePowersOfTen.size) :
    Exact Float.exactlyRepresentablePowersOfTen[k] (10 ^ k) := by
  have all : ∀ k : Fin 23, isPower k (parts Float.exactlyRepresentablePowersOfTen[k]) = true := by
    decide +kernel
  exact exact_of_isPower (all ⟨k, few⟩)

/-! ## Divisions -/

section Divisions

variable {x : Float} {m : ℕ} {q : ℤ} {h : 0 < m}

theorem div_of_exact {y z : Float} {a b : ℚ} (exact_x : Exact x a) (exact_y : Exact y b)
    (found : parts z = .finite .positive m q h) (rounds : Rounds (a / b) m q) : x / y = z := by
  obtain ⟨m₁, e₁, h₁, hx, rfl⟩ := exact_x
  obtain ⟨m₂, e₂, h₂, hy, rfl⟩ := exact_y
  have packed : x / y =
      .ofModel (.pack (UnpackedFloat.div Format.binary64 (parts x) (parts y))) := rfl
  rw [packed, hx, hy, div_eq (canonical_parts found).1 rounds, ← found, pack_parts]

/-- A decimal fraction is read as the double that it rounds to. -/
theorem ofScientific_eq {n k : ℕ} (some_ : 0 < n) (fraction : 0 < k) (few : k ≤ 2048)
    (found : parts x = .finite .positive m q h) (rounds : Rounds (n / 10 ^ k) m q) :
    Float.ofScientific n true k = x := by
  unfold Float.ofScientific
  split
  · rename_i small
    exact div_of_exact (exact_count some_ small.1) (exact_power _) found rounds
  · have whole : (0 : ℕ) < 10 ^ k := by positivity
    have quotient : UnpackedFloat.ofScientific Format.binary64 n (Int.negOfNat k) =
        UnpackedFloat.div Format.binary64 (.finite .positive n 0 some_)
          (.finite .positive (10 ^ k) 0 whole) := by
      have minus : Int.negOfNat k = -(k : ℤ) := Int.negOfNat_eq
      have power : (-Int.negOfNat k).toNat = k := by omega
      simp only [UnpackedFloat.ofScientific, power]
      rw [dif_neg some_.ne', if_neg (by omega), if_neg (by omega), if_neg (by omega)]
    have packed : Float.ofModel (Float.Model.ofScientific n (Int.negOfNat k)) =
        .ofModel (.pack (UnpackedFloat.ofScientific Format.binary64 n (Int.negOfNat k))) := rfl
    have rounds' : Rounds (n * 2 ^ (0 : ℤ) / ((10 ^ k : ℕ) * 2 ^ (0 : ℤ))) m q := by
      simpa using rounds
    simp only [if_true]
    rw [packed, quotient, div_eq (canonical_parts found).1 rounds', ← found, pack_parts]

end Divisions

end Multipath.Doubles

namespace Multipath.Decimal

open Doubles

/-- No double is as large as the power of ten from which on reading does not look at the digits. -/
theorem toDouble_eq {x : Float} {m : ℕ} {q : ℤ} {h : 0 < m} {n k : ℕ} (some_ : 0 < n)
    (fraction : 0 < k) (few : k ≤ 350) (found : parts x = .finite .positive m q h)
    (rounds : Rounds (n / 10 ^ k) m q) : toDouble n (-k) = x := by
  obtain ⟨canonical, high⟩ := canonical_parts found
  have digits : n.log2 < 1024 + 4 * k := by
    rw [Nat.log2_lt some_.ne']
    have below : (n : ℚ) < 2 ^ (1024 + 4 * k) := by
      have top := rounds.lt_top canonical
      rw [div_lt_iff₀ (by positivity)] at top
      calc (n : ℚ) < 2 ^ (53 + q) * 10 ^ k := top
        _ ≤ 2 ^ (1024 : ℤ) * 16 ^ k := by
          refine mul_le_mul ?_ ?_ (by positivity) (by positivity)
          · exact zpow_le_zpow_right₀ (by norm_num) (by omega)
          · exact pow_le_pow_left₀ (by norm_num) (by norm_num) k
        _ = 2 ^ (1024 + 4 * k) := by
          rw [pow_add, pow_mul]
          norm_num
    exact_mod_cast below
  have below : ¬ 400 < ((n.log2 * 30103 / 100000 : ℕ) + -k : ℤ) := by omega
  have above : ¬ ((n.log2 * 30103 / 100000 : ℕ) + -k : ℤ) < -400 := by omega
  have minus : (-k : ℤ) < 0 := by omega
  simp only [toDouble, some_.ne', below, above, if_false, minus, decide_true, Int.natAbs_neg,
    Int.natAbs_natCast]
  exact ofScientific_eq some_ fraction (by omega) found rounds

end Multipath.Decimal
