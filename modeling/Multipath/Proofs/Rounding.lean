import Multipath.Proofs.Doubles

/-! # Rounding to the nearest double

A number that is given by its digits and by what is lost behind them (`Tracks`) is rounded to the
double that it is nearest to (`roundWithAccuracy_eq`). What is nearest is said by `Rounds`: no further
than half a unit away, or a quarter below the least number of its length, where the doubles lie
closer; and at the same distance from two the even one is taken. So a quotient is the double that it
rounds to (`div_eq`).
-/

namespace Multipath.Doubles

open Float.Model (Format UnpackedFloat totalExponent)
open Float.Model.UnpackedFloat

/-! ## Digits and what is lost -/

/-- What the digits and the two marks behind them say of a number: that there is a half, and that there
is more than the digits and the half. -/
def Tracks : ExtendedMantissa → ℚ → Prop
  | ⟨m, false, false⟩, u => u = m
  | ⟨m, false, true⟩, u => m < u ∧ u < m + 1 / 2
  | ⟨m, true, false⟩, u => u = m + 1 / 2
  | ⟨m, true, true⟩, u => m + 1 / 2 < u ∧ u < m + 1

namespace Tracks

variable {em : ExtendedMantissa} {u : ℚ} {m n : ℕ}

theorem shiftRightOne (tracks : Tracks em u) : Tracks em.shiftRightOne (u / 2) := by
  obtain ⟨m, half, more⟩ := em
  have digits : (m : ℚ) = 2 * (m / 2 : ℕ) + (m % 2 : ℕ) := by
    exact_mod_cast (Nat.div_add_mod m 2).symm
  rcases Nat.mod_two_eq_zero_or_one m with odd | odd
  · rw [odd] at digits
    cases half <;> cases more <;> simp [Tracks, ExtendedMantissa.shiftRightOne, odd] at tracks ⊢ <;>
      grind
  · rw [odd] at digits
    cases half <;> cases more <;> simp [Tracks, ExtendedMantissa.shiftRightOne, odd] at tracks ⊢ <;>
      grind

theorem shiftRight (tracks : Tracks em u) (k : ℕ) : Tracks (em >>> k) (u / 2 ^ k) := by
  induction k with
  | zero =>
      rw [pow_zero, div_one]
      exact tracks
  | succ k ih =>
      rw [pow_succ, ← div_div]
      exact ih.shiftRightOne

end Tracks

/-- The number is nearest to this whole one, a half going to the even one. -/
structure Nearest (u : ℚ) (m : ℕ) : Prop where
  low : (m : ℚ) - 1 / 2 ≤ u
  high : u ≤ m + 1 / 2
  odd : m % 2 = 1 → (m : ℚ) - 1 / 2 < u ∧ u < m + 1 / 2

theorem Tracks.roundedMantissa {em : ExtendedMantissa} {u : ℚ} {n : ℕ} (tracks : Tracks em u)
    (nearest : Nearest u n) : em.roundedMantissa = n := by
  obtain ⟨m, half, more⟩ := em
  obtain ⟨low, high, odd⟩ := nearest
  cases half with
  | false =>
      -- The digits are within a half of the number, and so are the nearest ones.
      have close : (n : ℚ) < m + 1 ∧ (m : ℚ) < n + 1 := by
        cases more with
        | false =>
            have same : u = m := tracks
            constructor <;> linarith
        | true =>
            obtain ⟨below, above⟩ : m < u ∧ u < m + 1 / 2 := tracks
            constructor <;> linarith
      norm_cast at close
      have same : m = n := by omega
      cases more with
      | false => exact same
      | true => exact same
  | true =>
      cases more with
      | true =>
          obtain ⟨below, above⟩ : m + 1 / 2 < u ∧ u < m + 1 := tracks
          have close : (n : ℚ) < m + 2 ∧ (m : ℚ) < n := by constructor <;> linarith
          norm_cast at close
          have same : m + 1 = n := by omega
          exact same
      | false =>
          -- A half: both neighbours are as near, and only the even one is nearest.
          have same : u = m + 1 / 2 := tracks
          have close : (n : ℚ) < m + 2 ∧ (m : ℚ) < n + 1 := by constructor <;> linarith
          norm_cast at close
          have even : n % 2 = 0 := by
            refine (Nat.mod_two_eq_zero_or_one n).resolve_right fun tie => ?_
            obtain ⟨below, above⟩ := odd tie
            have apart : (n : ℚ) < m + 1 ∧ (m : ℚ) < n := by constructor <;> linarith
            norm_cast at apart
            omega
          have rounded : m + m % 2 = n := by omega
          exact rounded

/-- The whole part of a quotient, with what is lost of it. -/
theorem tracks_fraction (a : ℕ) {b : ℕ} (pos : 0 < b) :
    Tracks (.ofMantissaAndAccuracy (a / b) (accuracyOfFraction (a % b) b)) ((a : ℚ) / b) := by
  have pos' : (0 : ℚ) < b := by exact_mod_cast pos
  have whole : (a : ℚ) / b = (a / b : ℕ) + (a % b : ℕ) / b := by
    rw [div_eq_iff pos'.ne', add_mul, div_mul_cancel₀ _ pos'.ne']
    exact_mod_cast (Nat.div_add_mod' a b).symm
  rw [whole]
  generalize a / b = q
  have left : a % b < b := Nat.mod_lt a pos
  generalize a % b = r at left
  by_cases none_ : r = 0
  · simp [accuracyOfFraction, none_, ExtendedMantissa.ofMantissaAndAccuracy, Tracks]
  have some_ : (0 : ℚ) < r / b := div_pos (by exact_mod_cast Nat.pos_of_ne_zero none_) pos'
  have below : (r : ℚ) / b < 1 := by
    rw [div_lt_one pos']
    exact_mod_cast left
  rw [accuracyOfFraction, if_neg none_]
  rcases Nat.lt_trichotomy (2 * r) b with less | same | more
  · have half : (r : ℚ) / b < 1 / 2 := by
      rw [div_lt_div_iff₀ pos' (by norm_num), one_mul, mul_comm]
      exact_mod_cast less
    rw [Nat.compare_eq_lt.2 less]
    change (q : ℚ) < q + r / b ∧ (q : ℚ) + r / b < q + 1 / 2
    constructor <;> linarith
  · have half : (r : ℚ) / b = 1 / 2 := by
      rw [div_eq_div_iff pos'.ne' (by norm_num), one_mul, mul_comm]
      exact_mod_cast same
    rw [Nat.compare_eq_eq.2 same, half]
    rfl
  · have half : 1 / 2 < (r : ℚ) / b := by
      rw [div_lt_div_iff₀ (by norm_num) pos', one_mul, mul_comm]
      exact_mod_cast more
    rw [Nat.compare_eq_gt.2 more]
    change (q : ℚ) + 1 / 2 < q + r / b ∧ (q : ℚ) + r / b < q + 1
    constructor <;> linarith

/-! ## Nearest doubles -/

/-- The digits and the exponent of a double. -/
structure Canonical (m : ℕ) (e : ℤ) : Prop where
  pos : 0 < m
  short : m < 2 ^ 53
  low : -1074 ≤ e
  full : 2 ^ 52 ≤ m ∨ e = -1074

/-- How far below a double the numbers are that round to it, in units of its last digit: the neighbour
below the least number of a length is only half as far away. -/
def reach (m : ℕ) (e : ℤ) : ℚ := if m = 2 ^ 52 ∧ e ≠ -1074 then 1 / 4 else 1 / 2

/-- The number is nearest to the double with these digits and this exponent. -/
structure Rounds (v : ℚ) (m : ℕ) (e : ℤ) : Prop where
  low : (m - reach m e) * 2 ^ e ≤ v
  high : v ≤ (m + 1 / 2) * 2 ^ e
  odd : m % 2 = 1 → (m - reach m e) * 2 ^ e < v ∧ v < (m + 1 / 2) * 2 ^ e

/-- In units of the exponent it is nearest to the digits. -/
theorem Rounds.nearest {v : ℚ} {m : ℕ} {e : ℤ} (rounds : Rounds v m e) : Nearest (v / 2 ^ e) m := by
  have unit : (0 : ℚ) < 2 ^ e := by positivity
  have near : reach m e ≤ 1 / 2 := by
    unfold reach
    split <;> norm_num
  have least : (m - 1 / 2) * (2 : ℚ) ^ e ≤ (m - reach m e) * 2 ^ e :=
    mul_le_mul_of_nonneg_right (by linarith) unit.le
  obtain ⟨low, high, odd⟩ := rounds
  refine ⟨?_, ?_, fun tie => ?_⟩
  · rw [le_div_iff₀ unit]
    exact least.trans low
  · rw [div_le_iff₀ unit]
    exact high
  · obtain ⟨low', high'⟩ := odd tie
    rw [lt_div_iff₀ unit, div_lt_iff₀ unit]
    exact ⟨least.trans_lt low', high'⟩

/-! ## Shifting twice -/

section Shifts

variable {m n : ℕ} {e t t' : ℤ} {acc : Accuracy} {v : ℚ}

/-- The shift to the exponent under which a number is kept loses nothing that rounding asks for. -/
theorem Tracks.shifted (tracks : Tracks (.ofMantissaAndAccuracy m acc) (v / 2 ^ e))
    (target : Format.binary64.targetExponent (totalExponent m e) = t) (fine : e ≤ t) :
    ∃ em, shiftToTargetExponent Format.binary64 m e acc = (em, t) ∧ Tracks em (v / 2 ^ t) := by
  obtain ⟨k, rfl⟩ := Int.le.dest fine
  have amount : (e + k - e).toNat = k := by omega
  refine ⟨ExtendedMantissa.ofMantissaAndAccuracy m acc >>> k, ?_, ?_⟩
  · simp only [shiftToTargetExponent, target, shiftToExponent, amount]
  · have shifted := tracks.shiftRight k
    rw [div_div, ← zpow_natCast, ← zpow_add₀ (by norm_num)] at shifted
    exact shifted

/-- A number that is short enough stays as it is. -/
theorem shift_settled (settled : Format.binary64.targetExponent (totalExponent m e) ≤ e) :
    shiftToTargetExponent Format.binary64 m e .exact = (⟨m, false, false⟩, e) := by
  have none_ : (Format.binary64.targetExponent (totalExponent m e) - e).toNat = 0 := by omega
  simp only [shiftToTargetExponent, shiftToExponent, none_]
  exact Prod.ext rfl (by simp)

theorem shift_carry (low : -1074 ≤ e) :
    shiftToTargetExponent Format.binary64 (2 ^ 53) e .exact = (⟨2 ^ 52, false, false⟩, e + 1) := by
  have target := targetExponent_eq (totalExponent (2 ^ 53) e)
  have digits : (2 ^ 53 : ℕ).log2 = 53 := Nat.log2_two_pow
  have one : (Format.binary64.targetExponent (totalExponent (2 ^ 53) e) - e).toNat = 1 := by
    rw [target, totalExponent, digits]
    omega
  simp only [shiftToTargetExponent, shiftToExponent, one]
  rfl

theorem round_of_shifts {em : ExtendedMantissa} (s : Sign) (pos : 0 < n)
    (first : shiftToTargetExponent Format.binary64 m e acc = (em, t))
    (second : shiftToTargetExponent Format.binary64 em.roundedMantissa t .exact =
      (⟨n, false, false⟩, t')) :
    roundWithAccuracy Format.binary64 s m e acc = .finite s n t' pos := by
  simp only [roundWithAccuracy, first, second, pos.ne', dite_false]

end Shifts

/-! ## The double that is rounded to -/

section Kept

variable {v : ℚ} {n : ℕ} {q : ℤ}

theorem Rounds.lt_top (rounds : Rounds v n q) (canonical : Canonical n q) : v < 2 ^ (53 + q) := by
  have short : (n : ℚ) + 1 / 2 < 2 ^ 53 := by
    have whole : (n : ℚ) + 1 ≤ 2 ^ 53 := by exact_mod_cast canonical.short
    linarith
  calc v ≤ (n + 1 / 2) * 2 ^ q := rounds.high
    _ < 2 ^ 53 * 2 ^ q := mul_lt_mul_of_pos_right short (by positivity)
    _ = 2 ^ (53 + q) := by rw [zpow_add₀ (by norm_num)]; norm_num

/-- All digits of a double stand for a number that has as many. -/
theorem Rounds.bottom_lt (rounds : Rounds v n q) (full : 2 ^ 52 < n) : (2 : ℚ) ^ (52 + q) < v := by
  have above : reach n q = 1 / 2 := if_neg fun least => full.ne' least.1
  have digits : (2 : ℚ) ^ 52 + 1 ≤ n := by exact_mod_cast full
  calc (2 : ℚ) ^ (52 + q) = 2 ^ 52 * 2 ^ q := by rw [zpow_add₀ (by norm_num)]; norm_num
    _ < (n - reach n q) * 2 ^ q := mul_lt_mul_of_pos_right (by linarith) (by positivity)
    _ ≤ v := rounds.low

theorem Rounds.half_bottom_lt (rounds : Rounds v (2 ^ 52) q) : (2 : ℚ) ^ (51 + q) < v := by
  have above : reach (2 ^ 52) q ≤ 1 / 2 := by
    unfold reach
    split <;> norm_num
  calc (2 : ℚ) ^ (51 + q) = 2 ^ 51 * 2 ^ q := by rw [zpow_add₀ (by norm_num)]; norm_num
    _ < ((2 ^ 52 : ℕ) - reach (2 ^ 52) q) * 2 ^ q :=
      mul_lt_mul_of_pos_right (by norm_num at above ⊢; linarith) (by positivity)
    _ ≤ v := rounds.low

/-- Just below the least number of a length the doubles lie closer, and one digit more is kept. -/
theorem Rounds.nearest_below (rounds : Rounds v (2 ^ 52) q) (above : q ≠ -1074)
    (below : v < 2 ^ (52 + q)) : Nearest (v / 2 ^ (q - 1)) (2 ^ 53) := by
  have unit : (0 : ℚ) < 2 ^ (q - 1) := by positivity
  have double_ : (2 : ℚ) ^ q = 2 * 2 ^ (q - 1) := by
    rw [← zpow_one_add₀ (by norm_num)]
    congr 1
    omega
  have near : reach (2 ^ 52) q = 1 / 4 := if_pos ⟨rfl, above⟩
  have low := rounds.low
  rw [near, double_] at low
  have high : v < 2 ^ 53 * 2 ^ (q - 1) :=
    calc v < 2 ^ (52 + q) := below
      _ = 2 ^ 52 * 2 ^ q := by rw [zpow_add₀ (by norm_num)]; norm_num
      _ = 2 ^ 53 * 2 ^ (q - 1) := by rw [double_]; ring
  refine ⟨?_, ?_, fun odd => absurd odd (by decide)⟩
  · rw [le_div_iff₀ unit]
    push_cast at low ⊢
    linarith
  · rw [div_le_iff₀ unit]
    push_cast
    linarith

end Kept

/-- The digits of a number as they come to be rounded: no fewer than a double keeps of it, and marks for
the rest. -/
structure Digits (v : ℚ) (m : ℕ) (e : ℤ) (acc : Accuracy) : Prop where
  tracks : Tracks (.ofMantissaAndAccuracy m acc) (v / 2 ^ e)
  fine : e ≤ Format.binary64.targetExponent (totalExponent m e)
  above : v < 2 ^ totalExponent m e
  below : (2 : ℚ) ^ (totalExponent m e - 1) ≤ v ∨ totalExponent m e ≤ -1021

/-- What rounds to a double is rounded to it, from all the digits that it has more. -/
theorem roundWithAccuracy_eq {m n : ℕ} {e q : ℤ} {acc : Accuracy} {v : ℚ} (s : Sign)
    (canonical : Canonical n q) (rounds : Rounds v n q) (digits : Digits v m e acc) :
    roundWithAccuracy Format.binary64 s m e acc = .finite s n q canonical.pos := by
  obtain ⟨tracks, fine, above, below⟩ := digits
  have target := targetExponent_eq (totalExponent m e)
  generalize reached : Format.binary64.targetExponent (totalExponent m e) = t at fine target
  obtain ⟨em, first, shifted⟩ := tracks.shifted reached fine
  generalize totalExponent m e = total at above below target
  obtain ⟨pos, short, low, full⟩ := canonical
  have one_lt : (1 : ℚ) < 2 := by norm_num
  have most : t ≤ q := by
    rcases below with below | below
    · have few := (zpow_lt_zpow_iff_right₀ one_lt).1
        (below.trans_lt (rounds.lt_top ⟨pos, short, low, full⟩))
      omega
    · omega
  by_cases kept : t = q
  · subst kept
    have digits := shifted.roundedMantissa rounds.nearest
    refine round_of_shifts s pos first ?_
    rw [digits]
    refine shift_settled ?_
    have few : n.log2 < 53 := (Nat.log2_lt pos.ne').2 short
    rw [targetExponent_eq, totalExponent]
    omega
  · -- One digit more is kept only below the least number of the length, which the number rounds to.
    have normal : q ≠ -1074 := by omega
    have long : 2 ^ 52 ≤ n := full.resolve_right normal
    have least : n = 2 ^ 52 := by
      refine le_antisymm (not_lt.1 fun more => kept ?_) long
      have many := (zpow_lt_zpow_iff_right₀ one_lt).1 ((rounds.bottom_lt more).trans above)
      omega
    subst least
    have many := (zpow_lt_zpow_iff_right₀ one_lt).1 (rounds.half_bottom_lt.trans above)
    obtain ⟨rfl, rfl⟩ : t = q - 1 ∧ total = 52 + q := by omega
    have digits := shifted.roundedMantissa (rounds.nearest_below normal above)
    refine round_of_shifts s pos first ?_
    rw [digits, shift_carry (by omega), sub_add_cancel]

/-! ## Quotients -/

section Quotients

variable {m : ℕ} {e : ℤ}

theorem lt_totalExponent (m : ℕ) (e : ℤ) : (m : ℚ) * 2 ^ e < 2 ^ totalExponent m e := by
  have digits : (m : ℚ) < 2 ^ (m.log2 + 1) := by exact_mod_cast Nat.lt_log2_self
  rw [totalExponent, zpow_add₀ (by norm_num)]
  exact mul_lt_mul_of_pos_right digits (by positivity)

theorem totalExponent_le (pos : 0 < m) (e : ℤ) : (2 : ℚ) ^ (totalExponent m e - 1) ≤ m * 2 ^ e := by
  have digits : (2 : ℚ) ^ m.log2 ≤ m := by exact_mod_cast Nat.log2_self_le pos.ne'
  have less : totalExponent m e - 1 = m.log2 + e := by
    unfold totalExponent
    omega
  rw [less, zpow_add₀ (by norm_num)]
  exact mul_le_mul_of_nonneg_right digits (by positivity)

variable {m₁ m₂ n : ℕ} {e₁ e₂ q : ℤ}

theorem lt_quotient (pos₁ : 0 < m₁) (pos₂ : 0 < m₂) (e₁ e₂ : ℤ) :
    (2 : ℚ) ^ (totalExponent m₁ e₁ - totalExponent m₂ e₂ - 1) < m₁ * 2 ^ e₁ / (m₂ * 2 ^ e₂) := by
  have below := totalExponent_le pos₁ e₁
  have above := lt_totalExponent m₂ e₂
  have some_ : (0 : ℚ) < m₂ * 2 ^ e₂ := by positivity
  rw [lt_div_iff₀ some_, sub_right_comm, zpow_sub₀ (by norm_num), div_mul_eq_mul_div,
    div_lt_iff₀ (by positivity)]
  exact mul_lt_mul' below above (by positivity) (by positivity)

/-- The digits of a quotient. -/
theorem digits_quotient (pos₁ : 0 < m₁) (pos₂ : 0 < m₂) (e₁ e₂ : ℤ) :
    ∃ m e acc, divCore Format.binary64 m₁ e₁ m₂ e₂ = (m, e, acc) ∧
      Digits (m₁ * 2 ^ e₁ / (m₂ * 2 ^ e₂)) m e acc := by
  have least := lt_quotient pos₁ pos₂ e₁ e₂
  have target := targetExponent_eq (totalExponent m₁ e₁ - totalExponent m₂ e₂)
  generalize value : (m₁ : ℚ) * 2 ^ e₁ / (m₂ * 2 ^ e₂) = v at least ⊢
  refine ⟨_, _, _, rfl, ?_⟩
  generalize totalExponent m₁ e₁ - totalExponent m₂ e₂ = d at least target ⊢
  generalize reached : min (e₁ - e₂) (Format.binary64.targetExponent d) = t
  obtain ⟨k, exponent⟩ := Int.le.dest (reached ▸ min_le_left _ _ : t ≤ e₁ - e₂)
  have amount : (e₁ - e₂ - t).toNat = k := by omega
  have scaled : v / 2 ^ t = (m₁ <<< k : ℕ) / m₂ := by
    obtain rfl : e₁ = t + k + e₂ := by omega
    rw [← value, Nat.shiftLeft_eq, zpow_add₀ (by norm_num), zpow_add₀ (by norm_num), zpow_natCast]
    push_cast
    field_simp
  have tracks := tracks_fraction (m₁ <<< k) pos₂
  have whole : ((m₁ <<< k / m₂ : ℕ) : ℚ) ≤ v / 2 ^ t := scaled ▸ Nat.cast_div_le
  have short : v / 2 ^ t < (m₁ <<< k / m₂ : ℕ) + 1 := by
    rw [scaled, div_lt_iff₀ (by positivity), mul_comm]
    exact_mod_cast Nat.lt_mul_div_succ (m₁ <<< k) pos₂
  rw [← scaled] at tracks
  rw [amount]
  generalize m₁ <<< k / m₂ = m at tracks whole short ⊢
  rw [le_div_iff₀ (by positivity)] at whole
  rw [div_lt_iff₀ (by positivity)] at short
  have above : v < 2 ^ totalExponent m t := by
    have digits : (m : ℚ) + 1 ≤ 2 ^ (m.log2 + 1) := by exact_mod_cast Nat.lt_log2_self
    calc v < (m + 1) * 2 ^ t := short
      _ ≤ 2 ^ (m.log2 + 1) * 2 ^ t := mul_le_mul_of_nonneg_right digits (by positivity)
      _ = 2 ^ totalExponent m t := by
        rw [totalExponent, zpow_add₀ (by norm_num)]
        norm_cast
  have one_lt : (1 : ℚ) < 2 := by norm_num
  have digits := (zpow_lt_zpow_iff_right₀ one_lt).1 (least.trans above)
  refine ⟨tracks, ?_, above, ?_⟩
  · rw [targetExponent_eq]
    omega
  · rcases Nat.eq_zero_or_pos m with rfl | pos
    · refine .inr ?_
      rw [Nat.cast_zero, zero_add, one_mul] at short
      have few := (zpow_lt_zpow_iff_right₀ one_lt).1 (least.trans short)
      have one : totalExponent 0 t = 1 + t := rfl
      omega
    · exact .inl ((totalExponent_le pos t).trans whole)

/-- A quotient is the double that it rounds to. -/
theorem div_eq {h₁ : 0 < m₁} {h₂ : 0 < m₂} (canonical : Canonical n q)
    (rounds : Rounds (m₁ * 2 ^ e₁ / (m₂ * 2 ^ e₂)) n q) :
    UnpackedFloat.div Format.binary64 (.finite .positive m₁ e₁ h₁) (.finite .positive m₂ e₂ h₂) =
      .finite .positive n q canonical.pos := by
  obtain ⟨m, e, acc, core, digits⟩ := digits_quotient h₁ h₂ e₁ e₂
  simp only [UnpackedFloat.div, core]
  exact roundWithAccuracy_eq _ canonical rounds digits

end Quotients

end Multipath.Doubles
