import Multipath.Proofs.Parts

/-! # Products that do not shrink

A weight between zero and one is multiplied by a factor above one and cut off at one. The product has
more digits than a double keeps, and rounding may take some of them away, but it never falls below a
double that the exact product is not below (`le_round`). So the new weight is at least the old one
(`le_lesser_mul`), whatever the factor, and also where the digits run out.
-/

namespace Multipath.Doubles

open Float.Model (Format UnpackedFloat totalExponent)
open Float.Model.UnpackedFloat

/-! ## Order -/

section Order

variable {x y z : Float} {m n : ℕ} {e q : ℤ} {h : 0 < m} {h' : 0 < n}

/-- Doubles above zero are in order by their exponents and then by their digits. -/
theorem le_iff_exponent (hx : parts x = .finite .positive m e h)
    (hy : parts y = .finite .positive n q h') : x ≤ y ↔ e < q ∨ e = q ∧ m ≤ n := by
  have ordered : x ≤ y ↔ ((compare e q).then (compare m n)).isLE = true := by
    rw [le_iff, hx, hy]
    rfl
  rw [ordered, Ordering.isLE_then_iff_or, Int.compare_eq_lt, Int.compare_eq_eq, Nat.isLE_compare]

theorem le_infinity (above : 0.0 < x) (hy : parts y = .infinity .positive) : x ≤ y := by
  rw [zero_lt_iff] at above
  rw [le_iff, hy]
  cases hx : parts x with
  | notANumber => simp [hx, positive] at above
  | zero s => rfl
  | infinity s => cases s <;> rfl
  | finite s m e h => cases s <;> rfl

theorem above_of_le (above : 0.0 < x) (le : x ≤ y) : 0.0 < y := by
  rw [le_iff] at le
  rw [zero_lt_iff]
  obtain hx | ⟨m, e, h, hx⟩ := parts_of_above above
  all_goals
    rw [hx] at le
    cases hy : parts y with
    | notANumber => simp [hy, UnpackedFloat.compare] at le
    | zero s => simp [hy, UnpackedFloat.compare, Ordering.isLE] at le
    | infinity s => cases s <;> simp [hy, UnpackedFloat.compare, Ordering.isLE, positive] at le ⊢
    | finite s m' e' h' => cases s <;> simp [hy, UnpackedFloat.compare, Ordering.isLE, positive] at le ⊢

theorem le_trans_of_above (above : 0.0 < x) (first : x ≤ y) (second : y ≤ z) : x ≤ z := by
  have above' := above_of_le above first
  obtain hz | ⟨m₃, e₃, h₃, hz⟩ := parts_of_above (above_of_le above' second)
  · exact le_infinity above hz
  obtain hy | ⟨m₂, e₂, h₂, hy⟩ := parts_of_above above'
  · rw [le_iff, hy, hz] at second
    cases second
  obtain hx | ⟨m₁, e₁, h₁, hx⟩ := parts_of_above above
  · rw [le_iff, hx, hy] at first
    cases first
  rw [le_iff_exponent hx hy] at first
  rw [le_iff_exponent hy hz] at second
  rw [le_iff_exponent hx hz]
  omega

end Order

/-! ## Rounding -/

/-- The exponent of a double is the least that its length allows. -/
theorem Canonical.exponent_eq {m : ℕ} {e : ℤ} (canonical : Canonical m e) :
    e = Format.binary64.targetExponent (totalExponent m e) := by
  obtain ⟨pos, short, low, full⟩ := canonical
  have digits : m.log2 < 53 := (Nat.log2_lt pos.ne').2 short
  rw [targetExponent_eq, totalExponent]
  rcases full with full | rfl
  · have long : 52 ≤ m.log2 := (Nat.le_log2 pos.ne').2 full
    omega
  · omega

section Rounding

variable {m n : ℕ} {e q : ℤ}

/-- What is not below a double is not kept under a lower exponent. -/
theorem Canonical.le_target (canonical : Canonical m e) (below : (m : ℚ) * 2 ^ e ≤ n * 2 ^ q) :
    e ≤ Format.binary64.targetExponent (totalExponent n q) := by
  have shorter : totalExponent m e - 1 < totalExponent n q :=
    (zpow_lt_zpow_iff_right₀ (by norm_num : (1 : ℚ) < 2)).1 <|
      calc (2 : ℚ) ^ (totalExponent m e - 1)
          ≤ m * 2 ^ e := totalExponent_le canonical.pos e
        _ ≤ n * 2 ^ q := below
        _ < 2 ^ totalExponent n q := lt_totalExponent n q
  have exponent := canonical.exponent_eq
  rw [targetExponent_eq] at exponent ⊢
  omega

/-- Nor has it fewer units of the same exponent. -/
theorem le_div_of_le {k : ℕ} (below : (m : ℚ) * 2 ^ (q + k) ≤ n * 2 ^ q) : m ≤ n / 2 ^ k := by
  rw [Nat.le_div_iff_mul_le (Nat.two_pow_pos k)]
  rw [zpow_add₀ (by norm_num), mul_comm ((2 : ℚ) ^ q), ← mul_assoc, zpow_natCast] at below
  exact_mod_cast le_of_mul_le_mul_right below (by positivity)

/-- Rounding keeps the digits or goes up by one; where that makes one digit too many, it goes up to
the next exponent. -/
theorem round_of_digits {em : ExtendedMantissa} {acc : Accuracy} {t : ℤ} (s : Sign)
    (first : shiftToTargetExponent Format.binary64 n q acc = (em, t))
    (digits : Canonical em.mantissa t) :
    ∃ r u, ∃ kept : Canonical r u,
      roundWithAccuracy Format.binary64 s n q acc = .finite s r u kept.pos ∧
        (u = t ∧ em.mantissa ≤ r ∨ u = t + 1) := by
  obtain ⟨pos, short, low, full⟩ := digits
  have least := le_roundedMantissa em
  have most := roundedMantissa_le em
  rcases Nat.lt_or_ge em.roundedMantissa (2 ^ 53) with fits | carries
  · have kept : Canonical em.roundedMantissa t := ⟨by omega, fits, low, by omega⟩
    exact ⟨_, t, kept, round_of_shifts s kept.pos first (shift_settled kept.exponent_eq.ge),
      .inl ⟨rfl, least⟩⟩
  · have longest : em.roundedMantissa = 2 ^ 53 := by omega
    have kept : Canonical (2 ^ 52) (t + 1) := ⟨by decide, by decide, by omega, .inl le_rfl⟩
    exact ⟨_, t + 1, kept, round_of_shifts s kept.pos first (longest ▸ shift_carry low), .inr rfl⟩

/-- The first digits of what is not below a double are those of another one, which is not below it. -/
theorem le_first_digits (canonical : Canonical m e) (long : 2 ^ 52 ≤ n)
    (below : (m : ℚ) * 2 ^ e ≤ n * 2 ^ q) :
    Canonical (n / 2 ^ lost n q) (q + lost n q) ∧
      (e < q + lost n q ∨ e = q + lost n q ∧ m ≤ n / 2 ^ lost n q) := by
  have some_ : n ≠ 0 := by omega
  have size : 52 ≤ n.log2 := (Nat.le_log2 some_).2 long
  have above := canonical.le_target below
  have target := targetExponent_eq (totalExponent n q)
  have exponent := add_lost n q
  generalize lost n q = k at exponent ⊢
  unfold totalExponent at above target exponent
  have fewer : e = q + k → m ≤ n / 2 ^ k := by
    rintro rfl
    exact le_div_of_le below
  have full : 2 ^ 52 ≤ n / 2 ^ k ∨ q + k = -1074 := by
    rcases (by omega : 52 + k ≤ n.log2 ∨ q + k = -1074) with all | least
    · refine .inl ((Nat.le_div_iff_mul_le (Nat.two_pow_pos k)).2 ?_)
      rw [← Nat.pow_add]
      exact (Nat.le_log2 some_).1 all
    · exact .inr least
  have low := canonical.low
  refine ⟨⟨?_, ?_, by omega, full⟩, by omega⟩
  · -- Under the least exponent there are at least the digits of the double.
    have pos := canonical.pos
    rcases full with full | least
    · omega
    · have more := fewer (by omega)
      omega
  · rw [Nat.div_lt_iff_lt_mul (Nat.two_pow_pos k), ← Nat.pow_add]
    exact (Nat.log2_lt some_).1 (by omega)

/-- What is not below a double is not below it either once it is rounded. -/
theorem le_round (s : Sign) (canonical : Canonical m e) (long : 2 ^ 52 ≤ n)
    (below : (m : ℚ) * 2 ^ e ≤ n * 2 ^ q) :
    ∃ r u, ∃ kept : Canonical r u,
      roundWithAccuracy Format.binary64 s n q .exact = .finite s r u kept.pos ∧
        (e < u ∨ e = u ∧ m ≤ r) := by
  obtain ⟨first, above⟩ := le_first_digits canonical long below
  obtain ⟨digits, reached⟩ := shiftToTargetExponent_exact n q
  generalize shifted : shiftToTargetExponent Format.binary64 n q .exact = pair at digits reached
  obtain ⟨em, t⟩ := pair
  simp only at digits reached
  subst reached
  obtain ⟨r, u, kept, rounded, grown⟩ := round_of_digits s shifted (digits ▸ first)
  exact ⟨r, u, kept, rounded, by omega⟩

end Rounding

/-! ## Products -/

section Products

variable {x f : Float}

/-- Nothing falls below a double by being packed. -/
theorem le_pack {m n : ℕ} {e q : ℤ} {h : 0 < m} (hx : parts x = .finite .positive m e h)
    (kept : Canonical n q) (grown : e < q ∨ e = q ∧ m ≤ n) :
    x ≤ .ofModel (.pack (.finite .positive n q kept.pos)) := by
  rcases lt_or_ge 971 q with high | fits
  · exact le_infinity (zero_lt_iff.2 (hx ▸ rfl)) (parts_pack_high .positive kept.pos high)
  · exact (le_iff_exponent hx (parts_pack kept fits)).2 grown

/-- A number between zero and one does not shrink when it is multiplied by one above one. -/
theorem le_mul (above : 0.0 < x) (below : x < 1.0) (finite : f.isFinite = true)
    (grows : ¬ f ≤ 1.0) : x ≤ x * f := by
  obtain ⟨m, e, h, hx⟩ := parts_of_lt_one above below
  obtain ⟨n, q, h', hf, full, high⟩ := parts_of_one_lt finite grows
  have long : 2 ^ 52 ≤ m * n := Nat.le_trans full (Nat.le_mul_of_pos_left n h)
  have one_le : (1 : ℚ) ≤ n * 2 ^ q :=
    calc (1 : ℚ) = 2 ^ 52 * 2 ^ (-52 : ℤ) := by norm_num
      _ ≤ n * 2 ^ q := mul_le_mul (by exact_mod_cast full)
        (zpow_le_zpow_right₀ (by norm_num) high) (by positivity) (by positivity)
  have exact_ : (m : ℚ) * 2 ^ e ≤ (m * n : ℕ) * 2 ^ (e + q) :=
    calc (m : ℚ) * 2 ^ e ≤ m * 2 ^ e * (n * 2 ^ q) := le_mul_of_one_le_right (by positivity) one_le
      _ = (m * n : ℕ) * 2 ^ (e + q) := by
        rw [zpow_add₀ (by norm_num)]
        push_cast
        ring
  obtain ⟨r, u, kept, rounded, grown⟩ := le_round .positive (canonical_parts hx).1 long exact_
  have product : UnpackedFloat.mul Format.binary64 (parts x) (parts f) =
      .finite .positive r u kept.pos := by
    rw [hx, hf, ← rounded]
    rfl
  have packed : x * f =
      .ofModel (.pack (UnpackedFloat.mul Format.binary64 (parts x) (parts f))) := rfl
  rw [packed, product]
  exact le_pack hx kept grown

/-- The least double stays as it is. -/
example : (5e-324 : Float) * 1.25 = 5e-324 := by decide +kernel

end Products

end Multipath.Doubles

namespace Multipath.Health

open Doubles

theorem le_lesser_one {x y : Float} (below : x < 1.0) (grown : x ≤ y) : x ≤ lesser y 1.0 := by
  unfold lesser
  split
  · exact le_of_lt below
  · split
    · exact grown
    · exact le_of_lt below

end Multipath.Health
