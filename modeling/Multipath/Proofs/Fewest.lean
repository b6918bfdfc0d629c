import Multipath.Decimal.Shortest
import Multipath.Proofs.Rounding

/-! # The digits that are found read back

The interval around a double is of the numbers that round to it (`holds_iff`), and what the search
keeps is in the interval. Something is kept on every way through the search, since the finest grid has
a point in each interval (`onGrid_fine`): a double has no more than 53 digits in base two, and that
grid has eighteen in base ten, as long as the magnitude is not taken too high (`magnitude_le`).
-/

namespace Multipath.Decimal

open Doubles

namespace Ratio

/-- The number that a ratio stands for. -/
def value (r : Ratio) : ℚ := r.num / r.den

variable {a b : Ratio}

theorem den_scaled (m : ℕ) {base : ℕ} (pos : 0 < base) (e : ℤ) : 0 < (scaled m base e).den := by
  cases e with
  | ofNat e => exact Nat.one_pos
  | negSucc e => exact Nat.pow_pos pos

theorem value_scaled (m base : ℕ) (e : ℤ) : (scaled m base e).value = m * (base : ℚ) ^ e := by
  cases e with
  | ofNat e =>
      change ((m * base ^ e : ℕ) : ℚ) / (1 : ℕ) = m * (base : ℚ) ^ (e : ℤ)
      rw [Nat.cast_one, div_one, zpow_natCast]
      push_cast
      rfl
  | negSucc e =>
      change (m : ℚ) / (base ^ (e + 1) : ℕ) = m * (base : ℚ) ^ (Int.negSucc e)
      rw [zpow_negSucc, div_eq_mul_inv]
      push_cast
      rfl

theorem value_times (a b : Ratio) : (a.times b).value = a.value * b.value := by
  simp only [times, value]
  push_cast
  exact (div_mul_div_comm _ _ _ _).symm

theorem below_iff (ha : 0 < a.den) (hb : 0 < b.den) : a.below b = true ↔ a.value < b.value := by
  have ha' : (0 : ℚ) < a.den := by exact_mod_cast ha
  have hb' : (0 : ℚ) < b.den := by exact_mod_cast hb
  rw [below, decide_eq_true_iff, value, value, div_lt_div_iff₀ ha' hb']
  norm_cast

theorem atMost_iff (ha : 0 < a.den) (hb : 0 < b.den) : a.atMost b = true ↔ a.value ≤ b.value := by
  have ha' : (0 : ℚ) < a.den := by exact_mod_cast ha
  have hb' : (0 : ℚ) < b.den := by exact_mod_cast hb
  rw [atMost, decide_eq_true_iff, value, value, div_le_div_iff₀ ha' hb']
  norm_cast

theorem floor_le (a : Ratio) : (a.floor : ℚ) ≤ a.value := Nat.cast_div_le

theorem lt_floor (ha : 0 < a.den) : a.value < a.floor + 1 := by
  have ha' : (0 : ℚ) < a.den := by exact_mod_cast ha
  rw [value, div_lt_iff₀ ha', mul_comm]
  exact_mod_cast Nat.lt_mul_div_succ a.num ha

end Ratio

/-! ## The interval -/

section Around

variable {m : ℕ} {e : ℤ} {narrow : Bool} {x : Ratio}

theorem value_high (m : ℕ) (e : ℤ) (narrow : Bool) :
    (Interval.around m e narrow).high.value = (m + 1 / 2) * 2 ^ e := by
  rw [Interval.around, Ratio.value_scaled, Nat.cast_ofNat, zpow_sub₀ (by norm_num)]
  push_cast
  ring

theorem value_low (pos : 0 < m) (near : narrow = true ↔ m = 2 ^ 52 ∧ e ≠ -1074) :
    (Interval.around m e narrow).low.value = (m - reach m e) * 2 ^ e := by
  have quarters : ((4 * m - if narrow then 1 else 2 : ℕ) : ℚ) = 4 * (m - reach m e) := by
    unfold reach
    by_cases close : m = 2 ^ 52 ∧ e ≠ -1074
    · rw [if_pos (near.2 close), if_pos close, Nat.cast_sub (by omega)]
      push_cast
      ring
    · rw [if_neg fun open_ => close (near.1 open_), if_neg close, Nat.cast_sub (by omega)]
      push_cast
      ring
  rw [Interval.around, Ratio.value_scaled, quarters, Nat.cast_ofNat, zpow_sub₀ (by norm_num)]
  ring

/-- The interval is of the numbers that round to the double. -/
theorem holds_iff (pos : 0 < m) (near : narrow = true ↔ m = 2 ^ 52 ∧ e ≠ -1074) (sound : 0 < x.den) :
    (Interval.around m e narrow).holds x = true ↔ Rounds x.value m e := by
  have low := value_low pos near
  have high := value_high m e narrow
  have low_sound : 0 < (Interval.around m e narrow).low.den := Ratio.den_scaled _ (by decide) _
  have high_sound : 0 < (Interval.around m e narrow).high.den := Ratio.den_scaled _ (by decide) _
  unfold Interval.holds
  split
  · rename_i closed
    have even : m % 2 = 0 := of_decide_eq_true closed
    rw [Bool.and_eq_true, Ratio.atMost_iff low_sound sound, Ratio.atMost_iff sound high_sound, low, high]
    exact ⟨fun held => ⟨held.1, held.2, fun odd => by omega⟩, fun rounds => ⟨rounds.low, rounds.high⟩⟩
  · rename_i open_
    have odd : m % 2 = 1 := Nat.mod_two_ne_zero.1 fun even => open_ (decide_eq_true even)
    rw [Bool.and_eq_true, Ratio.below_iff low_sound sound, Ratio.below_iff sound high_sound, low, high]
    exact ⟨fun held => ⟨held.1.le, held.2.le, fun _ => held⟩, fun rounds => rounds.odd odd⟩

end Around

/-! ## The search -/

section Search

variable {tie : Tie} {i : Interval} {x : Ratio} {e top : ℤ} {d : Digits}

def Digits.value (d : Digits) : ℚ := d.digits * 10 ^ d.exponent

/-- A point of a grid. -/
def gridPoint (e : ℤ) (n : ℕ) : Ratio := (Ratio.scaled 1 10 e).times ⟨n, 1⟩

theorem gridPoint_sound (e : ℤ) (n : ℕ) : 0 < (gridPoint e n).den :=
  Nat.mul_pos (Ratio.den_scaled 1 (by decide) e) Nat.one_pos

theorem value_gridPoint (e : ℤ) (n : ℕ) : (gridPoint e n).value = n * 10 ^ e := by
  rw [gridPoint, Ratio.value_times, Ratio.value_scaled, Ratio.value, Nat.cast_one, Nat.cast_ofNat]
  ring

/-- What is taken from a grid is in the interval. -/
theorem onGrid_found (found : onGrid tie i x e = some d) :
    d.exponent = e ∧ 0 < d.digits ∧ i.holds (gridPoint e d.digits) = true := by
  unfold onGrid at found
  simp only at found
  split at found
  · cases found
  · rename_i down _
    cases found
    rw [Bool.and_eq_true, decide_eq_true_iff] at down
    exact ⟨rfl, Nat.pos_of_ne_zero down.2, down.1⟩
  · rename_i up
    cases found
    exact ⟨rfl, Nat.succ_pos _, up⟩
  · rename_i down up
    rw [Bool.and_eq_true, decide_eq_true_iff] at down
    obtain rfl := Option.some.inj found
    exact ⟨rfl, iteInduction (motive := fun n => 0 < n ∧ i.holds (gridPoint e n) = true)
      (fun _ => ⟨Nat.succ_pos _, up⟩) fun _ => ⟨Nat.pos_of_ne_zero down.2, down.1⟩⟩

/-- The point below a number. -/
def gridFloor (x : Ratio) (e : ℤ) : ℕ :=
  (x.times ⟨(Ratio.scaled 1 10 e).den, (Ratio.scaled 1 10 e).num⟩).floor

/-- A grid is not passed over if the point above the number is in the interval. -/
theorem onGrid_isSome (up : i.holds (gridPoint e (gridFloor x e + 1)) = true) :
    (onGrid tie i x e).isSome = true := by
  unfold onGrid
  simp only
  split
  · rename_i out
    exact absurd up (by rw [gridPoint, gridFloor, out]; decide)
  · rfl
  · rfl
  · rfl

/-- The point above a number is no further away than the grid is wide. -/
theorem gridFloor_bounds (sound : 0 < x.den) (e : ℤ) :
    x.value < (gridFloor x e + 1) * 10 ^ e ∧ (gridFloor x e : ℚ) * 10 ^ e ≤ x.value := by
  have grid := Ratio.value_scaled 1 10 e
  have some_ : 0 < (Ratio.scaled 1 10 e).num := by
    cases e with
    | ofNat e => exact Nat.mul_pos Nat.one_pos (Nat.pow_pos (by decide))
    | negSucc e => exact Nat.one_pos
  rw [Nat.cast_one, one_mul, Nat.cast_ofNat] at grid
  have turned : (x.times ⟨(Ratio.scaled 1 10 e).den, (Ratio.scaled 1 10 e).num⟩).value =
      x.value / 10 ^ e := by
    rw [Ratio.value_times, ← grid, Ratio.value, Ratio.value, Ratio.value, div_div_eq_mul_div,
      mul_div_assoc]
  have unit : (0 : ℚ) < 10 ^ e := by positivity
  rw [← div_lt_iff₀ unit, ← le_div_iff₀ unit, ← turned]
  exact ⟨Ratio.lt_floor (Nat.mul_pos sound some_), Ratio.floor_le _⟩

/-- The search ends at the first grid that has a point. -/
theorem search_found {fuel places p : ℕ} (from_ : places ≤ p) (to_ : p < places + fuel)
    (some_ : (onGrid tie i x (top - p)).isSome = true) :
    ∃ p' < places + fuel, onGrid tie i x (top - p') = some (search tie i x top fuel places) := by
  induction fuel generalizing places with
  | zero => omega
  | succ fuel ih =>
      unfold search
      split
      · rename_i found
        exact ⟨places, by omega, found⟩
      · rename_i out
        have later : places ≠ p := by
          rintro rfl
          rw [out] at some_
          cases some_
        obtain ⟨p', below, found⟩ := @ih (places + 1) (by omega) (by omega)
        exact ⟨p', by omega, found⟩

theorem strip_spec (fuel : ℕ) (some_ : 0 < d.digits) :
    (d.strip fuel).value = d.value ∧ 0 < (d.strip fuel).digits ∧
      d.exponent ≤ (d.strip fuel).exponent := by
  induction fuel generalizing d with
  | zero => exact ⟨rfl, some_, le_rfl⟩
  | succ fuel ih =>
      unfold Digits.strip
      split
      · rename_i zero
        rw [Bool.and_eq_true, decide_eq_true_iff, decide_eq_true_iff] at zero
        obtain ⟨k, digits⟩ := Nat.dvd_of_mod_eq_zero zero.1
        have shorter : d.digits / 10 = k := by omega
        rw [shorter]
        have pos : 0 < k := by omega
        obtain ⟨value, pos', higher⟩ := @ih ⟨k, d.exponent + 1⟩ pos
        refine ⟨value.trans ?_, pos', (Int.lt_succ d.exponent).le.trans higher⟩
        rw [Digits.value, Digits.value, digits, zpow_add_one₀ (by norm_num)]
        push_cast
        ring
      · exact ⟨rfl, some_, le_rfl⟩

/-! ## The magnitude -/

/-- Counting up from an estimate that is not too high does not go too high. -/
theorem magnitude_le (sound : 0 < x.den) {fuel : ℕ} {k : ℤ} (start : (10 : ℚ) ^ (k - 1) ≤ x.value) :
    (10 : ℚ) ^ (magnitude x fuel k - 1) ≤ x.value ∧ k ≤ magnitude x fuel k := by
  induction fuel generalizing k with
  | zero => exact ⟨start, le_rfl⟩
  | succ fuel ih =>
      unfold magnitude
      split
      · exact ⟨start, le_rfl⟩
      · rename_i more
        have grid := Ratio.value_scaled 1 10 k
        rw [Nat.cast_one, one_mul, Nat.cast_ofNat] at grid
        rw [Ratio.below_iff sound (Ratio.den_scaled 1 (by decide) k), grid, not_lt] at more
        obtain ⟨least, higher⟩ := @ih (k + 1) (by rwa [add_sub_cancel_right])
        exact ⟨least, by omega⟩

/-- Places of ten are estimated from places of two by a ratio that is a little too high, so that the
estimate is one too high at most. -/
theorem estimate_le {bits : ℤ} (low : -1074 ≤ bits) (high : bits ≤ 1024) :
    (10 : ℚ) ^ (bits * 30103 / 100000 - 1) ≤ 2 ^ bits := by
  generalize reached : bits * 30103 / 100000 - 1 = k
  rcases le_or_gt 0 k with whole | below
  · -- Above one, `59 / 196` is not too high.
    obtain ⟨n, rfl⟩ := Int.eq_ofNat_of_zero_le whole
    have ratio : (10 : ℚ) ^ 59 ≤ 2 ^ 196 := by norm_num
    refine le_of_pow_le_pow_left₀ (n := 59) (by decide) (by positivity) ?_
    calc ((10 : ℚ) ^ (n : ℤ)) ^ 59 = (10 ^ 59) ^ n := by
          rw [zpow_natCast, ← pow_mul, ← pow_mul, mul_comm]
      _ ≤ (2 ^ 196) ^ n := pow_le_pow_left₀ (by positivity) ratio n
      _ = 2 ^ ((196 : ℤ) * n) := by
          rw [← pow_mul, ← zpow_natCast]
          norm_cast
      _ ≤ 2 ^ (bits * 59) := zpow_le_zpow_right₀ (by norm_num) (by omega)
      _ = (2 ^ bits) ^ 59 := zpow_mul 2 bits 59
  · -- Below one, `28 / 93` is not too low.
    obtain ⟨n, down⟩ := Int.eq_ofNat_of_zero_le (neg_nonneg.2 below.le)
    obtain rfl : k = -n := by omega
    have ratio : (2 : ℚ) ^ 93 ≤ 10 ^ 28 := by norm_num
    have turned : (2 : ℚ) ^ (-bits) ≤ 10 ^ n := by
      refine le_of_pow_le_pow_left₀ (n := 28) (by decide) (by positivity) ?_
      calc ((2 : ℚ) ^ (-bits)) ^ 28 = 2 ^ (-bits * 28) := (zpow_mul 2 (-bits) 28).symm
        _ ≤ 2 ^ ((93 : ℤ) * n) := zpow_le_zpow_right₀ (by norm_num) (by omega)
        _ = (2 ^ 93) ^ n := by
            rw [← pow_mul, ← zpow_natCast]
            norm_cast
        _ ≤ (10 ^ 28) ^ n := pow_le_pow_left₀ (by positivity) ratio n
        _ = (10 ^ n) ^ 28 := by rw [← pow_mul, ← pow_mul, mul_comm]
    rw [zpow_neg] at turned ⊢
    rw [zpow_natCast]
    exact inv_le_of_inv_le₀ (zpow_pos two_pos bits) turned

/-! ## The digits of a double -/

/-- A number that is a little above a double rounds to it. -/
theorem rounds_above {v : ℚ} {m : ℕ} (above : m * 2 ^ e < v) (below : v < (m + 1 / 2) * 2 ^ e) :
    Rounds v m e := by
  have low : (m - reach m e) * 2 ^ e < v := by
    have some_ : 0 < reach m e := by
      unfold reach
      split <;> norm_num
    exact (mul_le_mul_of_nonneg_right (by linarith) (by positivity)).trans_lt above
  exact ⟨low.le, below.le, fun _ => ⟨low, below⟩⟩

theorem onGrid_fine {m : ℕ} {narrow : Bool} (pos : 0 < m)
    (near : narrow = true ↔ m = 2 ^ 52 ∧ e ≠ -1074) {g : ℤ} (fine : (10 : ℚ) ^ g < 1 / 2 * 2 ^ e) :
    (onGrid tie (.around m e narrow) (.scaled m 2 e) g).isSome = true := by
  have value : (Ratio.scaled m 2 e).value = m * 2 ^ e := Ratio.value_scaled m 2 e
  have sound : 0 < (Ratio.scaled m 2 e).den := Ratio.den_scaled m (by decide) e
  obtain ⟨above, below⟩ := gridFloor_bounds sound g
  rw [value] at above below
  have point := value_gridPoint g (gridFloor (.scaled m 2 e) g + 1)
  rw [Nat.cast_add_one] at point
  refine onGrid_isSome ((holds_iff pos near (gridPoint_sound _ _)).2 ?_)
  rw [point]
  exact rounds_above above (by linarith)

/-- Eighteen places are enough: two of their points are closer to each other than a double is to its
neighbours. -/
theorem fine_of_magnitude {m : ℕ} (short : m < 2 ^ 53)
    (least : (10 : ℚ) ^ (top - 1) ≤ m * 2 ^ e) : (10 : ℚ) ^ (top - 18) < 1 / 2 * 2 ^ e := by
  have coarse : (10 : ℚ) ^ (top - 1) = 10 ^ 17 * 10 ^ (top - 18) := by
    rw [← zpow_natCast, ← zpow_add₀ (by norm_num)]
    congr 1
    omega
  have short' : (m : ℚ) < 2 ^ 53 := by exact_mod_cast short
  have most : (m : ℚ) * 2 ^ e < 2 ^ 53 * 2 ^ e := mul_lt_mul_of_pos_right short' (by positivity)
  have unit : (0 : ℚ) < 2 ^ e := by positivity
  rw [coarse] at least
  linarith

/-- The digits that are written of a double round to it. -/
theorem shortest_spec {m : ℕ} {narrow : Bool} (canonical : Canonical m e) (high : e ≤ 971)
    (near : narrow = true ↔ m = 2 ^ 52 ∧ e ≠ -1074) (found : shortest tie m e narrow = d) :
    0 < d.digits ∧ -342 ≤ d.exponent ∧ Rounds d.value m e := by
  have sound : 0 < (Ratio.scaled m 2 e).den := Ratio.den_scaled m (by decide) e
  have value : (Ratio.scaled m 2 e).value = m * 2 ^ e := Ratio.value_scaled m 2 e
  have digits : m.log2 < 53 := (Nat.log2_lt canonical.pos.ne').2 canonical.short
  have low := canonical.low
  have size : (2 : ℚ) ^ (m.log2 + e) ≤ m * 2 ^ e := by
    rw [zpow_add₀ (by norm_num), zpow_natCast]
    have first : (2 : ℚ) ^ m.log2 ≤ m := by exact_mod_cast Nat.log2_self_le canonical.pos.ne'
    exact mul_le_mul_of_nonneg_right first (by positivity)
  have estimate := estimate_le (show -1074 ≤ m.log2 + e by omega) (by omega)
  rw [← value] at size
  simp only [shortest] at found
  obtain ⟨least, reached⟩ := @magnitude_le _ sound 4 _ (estimate.trans size)
  generalize magnitude (.scaled m 2 e) 4 ((m.log2 + e) * 30103 / 100000) = top at found least reached
  have fine := fine_of_magnitude canonical.short (value ▸ least)
  have some_ : (onGrid tie (.around m e narrow) (.scaled m 2 e) (top - (18 : ℕ))).isSome = true :=
    onGrid_fine canonical.pos near fine
  obtain ⟨p, close, taken⟩ := search_found (by decide : 1 ≤ 18) (by decide : 18 < 1 + 18) some_
  generalize search tie (.around m e narrow) (.scaled m 2 e) top 18 1 = d' at found taken
  obtain ⟨exponent, pos, held⟩ := onGrid_found taken
  have rounds := (holds_iff canonical.pos near (gridPoint_sound _ _)).1 held
  rw [value_gridPoint, ← exponent] at rounds
  obtain ⟨same, pos', higher⟩ := strip_spec 20 pos
  rw [found] at same pos' higher
  exact ⟨pos', by omega, same ▸ rounds⟩

end Search

end Multipath.Decimal
