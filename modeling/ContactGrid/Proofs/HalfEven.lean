import Mathlib.Algebra.Order.Floor.Semifield
import Mathlib.Data.Int.Log
import Mathlib.Data.Nat.Log
import Mathlib.Data.Rat.Floor
import Mathlib.Tactic.FieldSimp
import Mathlib.Tactic.Linarith
import Mathlib.Tactic.NormNum
import Mathlib.Tactic.Positivity
import Mathlib.Tactic.Ring

namespace ContactGrid

/-- The nearest whole number. Of two that are equally near it is the even
one. -/
def roundEven (x : ℚ) : ℕ :=
  if x - ⌊x⌋₊ < 1 / 2 then ⌊x⌋₊ else if 1 / 2 < x - ⌊x⌋₊ then ⌊x⌋₊ + 1 else ⌊x⌋₊ + ⌊x⌋₊ % 2

/-- Exponent of the last place of a double, which has 52 places behind the
leading one. -/
def lastPlace (x : ℚ) : ℤ :=
  Int.log 2 x - 52

/-- The nearest multiple of the last place: the double nearest to a number,
as long as the exponent is in range. -/
def nearest (x : ℚ) : ℚ :=
  roundEven (x / 2 ^ lastPlace x) * 2 ^ lastPlace x

section Whole

variable {x : ℚ} {k : ℕ}

theorem floor_le_roundEven (x : ℚ) : ⌊x⌋₊ ≤ roundEven x := by
  unfold roundEven
  split_ifs <;> omega

theorem roundEven_le_floor_succ (x : ℚ) : roundEven x ≤ ⌊x⌋₊ + 1 := by
  unfold roundEven
  split_ifs <;> omega

theorem roundEven_natCast (k : ℕ) : roundEven k = k := by
  rw [roundEven, Nat.floor_natCast, sub_self, if_pos (by norm_num)]

theorem le_roundEven (above : (k : ℚ) ≤ x) : k ≤ roundEven x :=
  (Nat.le_floor above).trans (floor_le_roundEven x)

theorem roundEven_le (nonneg : 0 ≤ x) (below : x ≤ k) : roundEven x ≤ k := by
  rcases below.eq_or_lt with rfl | below
  · rw [roundEven_natCast]
  · exact (roundEven_le_floor_succ x).trans ((Nat.floor_lt nonneg).2 below)

theorem abs_roundEven_sub_le (nonneg : 0 ≤ x) : |(roundEven x : ℚ) - x| ≤ 1 / 2 := by
  have lower := Nat.floor_le nonneg
  have upper := Nat.lt_floor_add_one x
  have odd : ((⌊x⌋₊ % 2 : ℕ) : ℚ) ≤ 1 := by exact_mod_cast Nat.lt_succ_iff.1 (Nat.mod_lt _ two_pos)
  have rest : (0 : ℚ) ≤ ((⌊x⌋₊ % 2 : ℕ) : ℚ) := Nat.cast_nonneg _
  rw [abs_le, roundEven]
  split_ifs <;> constructor <;> push_cast <;> linarith

theorem roundEven_close (nonneg : 0 ≤ x) (close : |x - k| ≤ 1) : roundEven x ≤ k + 1 ∧ k ≤ roundEven x + 1 := by
  have ⟨above, below⟩ := abs_le.1 close
  constructor
  · exact roundEven_le nonneg (by push_cast; linarith)
  · rcases Nat.eq_zero_or_pos k with rfl | some
    · exact Nat.zero_le _
    · have least : k - 1 ≤ roundEven x := le_roundEven (by rw [Nat.cast_pred some]; linarith)
      omega

/-- Halfway below an even number is enough to get there. -/
theorem le_roundEven_iff (even : k % 2 = 0) (nonneg : 0 ≤ x) (below : x < k) :
    k ≤ roundEven x ↔ (k : ℚ) - x ≤ 1 / 2 := by
  have small : ⌊x⌋₊ < k := (Nat.floor_lt nonneg).2 below
  have upper := Nat.lt_floor_add_one x
  constructor
  · intro reached
    have next : k = ⌊x⌋₊ + 1 := by
      have := roundEven_le_floor_succ x
      omega
    by_contra far
    have near : x - ⌊x⌋₊ < 1 / 2 := by
      have : (k : ℚ) = ⌊x⌋₊ + 1 := by exact_mod_cast next
      linarith
    rw [roundEven, if_pos near] at reached
    omega
  · intro close
    have floor : ⌊x⌋₊ = k - 1 := by
      refine (Nat.floor_eq_iff nonneg).2 ⟨?_, ?_⟩
      all_goals
        rw [Nat.cast_sub (by omega)]
        push_cast
        linarith
    have past : ¬x - ⌊x⌋₊ < 1 / 2 := by
      rw [floor, Nat.cast_sub (by omega)]
      push_cast
      linarith
    rw [roundEven, if_neg past]
    split <;> omega

/-- Halfway above an even number is not enough to get away from there. -/
theorem roundEven_le_of_even (even : k % 2 = 0) (nonneg : 0 ≤ x) (close : x ≤ k + 1 / 2) : roundEven x ≤ k := by
  rcases le_or_gt x k with below | above
  · exact roundEven_le nonneg below
  · have floor : ⌊x⌋₊ = k := (Nat.floor_eq_iff nonneg).2 ⟨above.le, by linarith⟩
    have half : ¬1 / 2 < x - (k : ℚ) := by linarith
    rw [roundEven, floor, if_neg half, even]
    split_ifs <;> omega

end Whole

section Doubles

variable {x : ℚ} {k n : ℕ}

theorem place_pos (e : ℤ) : (0 : ℚ) < 2 ^ e :=
  zpow_pos two_pos e

theorem le_scaled (positive : 0 < x) : 2 ^ 52 ≤ x / 2 ^ lastPlace x := by
  have lower : (2 : ℚ) ^ Int.log 2 x ≤ x := Int.zpow_log_le_self one_lt_two positive
  rw [le_div_iff₀ (place_pos _), lastPlace, ← zpow_natCast, ← zpow_add₀ two_ne_zero]
  simpa using lower

theorem scaled_lt (x : ℚ) : x / 2 ^ lastPlace x < 2 ^ 53 := by
  have upper : x < (2 : ℚ) ^ (Int.log 2 x + 1) := Int.lt_zpow_succ_log_self one_lt_two x
  rw [div_lt_iff₀ (place_pos _), lastPlace, ← zpow_natCast, ← zpow_add₀ two_ne_zero]
  refine upper.trans_le (le_of_eq ?_)
  congr 1
  push_cast
  ring

theorem lastPlace_eq {e : ℤ} (lower : (2 : ℚ) ^ (e + 52) ≤ x) (upper : x < 2 ^ (e + 53)) : lastPlace x = e := by
  have positive : 0 < x := (place_pos _).trans_le lower
  have most : Int.log 2 x < e + 53 := (Int.lt_zpow_iff_log_lt one_lt_two positive).1 upper
  have least : e + 52 ≤ Int.log 2 x := (Int.zpow_le_iff_le_log one_lt_two positive).1 lower
  rw [lastPlace]
  omega

theorem lastPlace_nonpos (small : x < 2 ^ 53) : lastPlace x ≤ 0 := by
  by_cases positive : 0 < x
  · have : Int.log 2 x < 53 := (Int.lt_zpow_iff_log_lt one_lt_two positive).1 (by simpa using small)
    rw [lastPlace]
    omega
  · rw [lastPlace, Int.log_of_right_le_zero _ (not_lt.1 positive)]
    decide

theorem nearest_zero : nearest 0 = 0 := by
  rw [nearest, zero_div, show roundEven 0 = 0 by simpa using roundEven_natCast 0, Nat.cast_zero, zero_mul]

theorem nearest_le (nonneg : 0 ≤ x) (below : x ≤ k * 2 ^ lastPlace x) : nearest x ≤ k * 2 ^ lastPlace x := by
  have scaled : x / 2 ^ lastPlace x ≤ k := (div_le_iff₀ (place_pos _)).2 below
  exact mul_le_mul_of_nonneg_right
    (by exact_mod_cast roundEven_le (div_nonneg nonneg (place_pos _).le) scaled) (place_pos _).le

theorem le_nearest (above : k * 2 ^ lastPlace x ≤ x) : k * 2 ^ lastPlace x ≤ nearest x := by
  have scaled : (k : ℚ) ≤ x / 2 ^ lastPlace x := (le_div_iff₀ (place_pos _)).2 above
  exact mul_le_mul_of_nonneg_right (by exact_mod_cast le_roundEven scaled) (place_pos _).le

/-- A multiple of a coarser place is a multiple of the last place. -/
theorem natCast_mul_place {e : ℤ} (coarse : lastPlace x ≤ e) (n : ℕ) :
    (n : ℚ) * 2 ^ e = ((n * 2 ^ (e - lastPlace x).toNat : ℕ) : ℚ) * 2 ^ lastPlace x := by
  have exponent : ((e - lastPlace x).toNat : ℤ) = e - lastPlace x := Int.toNat_of_nonneg (by omega)
  push_cast
  rw [← zpow_natCast, exponent, mul_assoc, ← zpow_add₀ two_ne_zero, sub_add_cancel]

theorem natCast_eq_mul_place (small : x < 2 ^ 53) (n : ℕ) :
    (n : ℚ) = ((n * 2 ^ (0 - lastPlace x).toNat : ℕ) : ℚ) * 2 ^ lastPlace x := by
  rw [← natCast_mul_place (lastPlace_nonpos small), zpow_zero, mul_one]

theorem nearest_le_natCast (nonneg : 0 ≤ x) (small : x < 2 ^ 53) (below : x ≤ n) : nearest x ≤ n := by
  rw [natCast_eq_mul_place small n] at below ⊢
  exact nearest_le nonneg below

theorem natCast_le_nearest (small : x < 2 ^ 53) (above : (n : ℚ) ≤ x) : (n : ℚ) ≤ nearest x := by
  rw [natCast_eq_mul_place small n] at above ⊢
  exact le_nearest above

theorem nearest_natCast (small : n < 2 ^ 53) : nearest n = n := by
  have small : (n : ℚ) < 2 ^ 53 := by exact_mod_cast small
  exact le_antisymm (nearest_le_natCast (Nat.cast_nonneg n) small le_rfl) (natCast_le_nearest small le_rfl)

/-- Rounding moves a number by at most half a unit in the last place. -/
theorem abs_nearest_sub_le (nonneg : 0 ≤ x) : |nearest x - x| ≤ x / 2 ^ 53 := by
  rcases nonneg.eq_or_lt with rfl | positive
  · simp [nearest_zero]
  have place := place_pos (lastPlace x)
  have unit : (2 : ℚ) ^ lastPlace x ≤ x / 2 ^ 52 := by
    have := (le_div_iff₀ place).1 (le_scaled positive)
    rw [le_div_iff₀ (by positivity)]
    linarith
  have error := abs_roundEven_sub_le (div_nonneg nonneg place.le)
  calc |nearest x - x|
    _ = |roundEven (x / 2 ^ lastPlace x) - x / 2 ^ lastPlace x| * 2 ^ lastPlace x := by
      rw [nearest, ← abs_of_pos place, ← abs_mul, abs_of_pos place, sub_mul, div_mul_cancel₀ _ place.ne']
    _ ≤ 1 / 2 * 2 ^ lastPlace x := mul_le_mul_of_nonneg_right error place.le
    _ ≤ x / 2 ^ 53 := by linarith

theorem lastPlace_natCast_mul {e : ℤ} (many : 2 ^ 52 ≤ k) (few : k < 2 ^ 53) : lastPlace (k * 2 ^ e) = e := by
  have many : (2 : ℚ) ^ 52 ≤ k := by exact_mod_cast many
  have few : (k : ℚ) < 2 ^ 53 := by exact_mod_cast few
  refine lastPlace_eq ?_ ?_
  · rw [add_comm, zpow_add₀ two_ne_zero]
    exact mul_le_mul_of_nonneg_right many (place_pos e).le
  · rw [add_comm, zpow_add₀ two_ne_zero]
    exact mul_lt_mul_of_pos_right few (place_pos e)

/-- What a positive number is rounded to has 53 places itself, at times one
place further up. -/
theorem exists_nearest_eq (positive : 0 < x) :
    ∃ k : ℕ, 2 ^ 52 ≤ k ∧ k < 2 ^ 53 ∧ nearest x = k * 2 ^ lastPlace (nearest x) ∧
      lastPlace x ≤ lastPlace (nearest x) ∧ lastPlace (nearest x) ≤ lastPlace x + 1 := by
  have many : 2 ^ 52 ≤ roundEven (x / 2 ^ lastPlace x) := le_roundEven (by exact_mod_cast le_scaled positive)
  have few : roundEven (x / 2 ^ lastPlace x) ≤ 2 ^ 53 :=
    roundEven_le (div_nonneg positive.le (place_pos _).le) (by exact_mod_cast (scaled_lt x).le)
  rcases few.lt_or_eq with few | carry
  · have place : lastPlace (nearest x) = lastPlace x := lastPlace_natCast_mul many few
    exact ⟨_, many, few, by rw [place, nearest], place.ge, by omega⟩
  · have value : nearest x = ((2 ^ 52 : ℕ) : ℚ) * 2 ^ (lastPlace x + 1) := by
      rw [nearest, carry, zpow_add_one₀ two_ne_zero]
      push_cast
      ring
    have place : lastPlace (nearest x) = lastPlace x + 1 := by
      rw [value]
      exact lastPlace_natCast_mul le_rfl (by norm_num)
    exact ⟨2 ^ 52, le_rfl, by norm_num, by rw [place, value], by omega, place.le⟩

/-- Half of the distance from a whole number to the double below it. -/
def gapBelow (n : ℕ) : ℚ :=
  2 ^ Nat.clog 2 n / 2 ^ 54

theorem two_pow_clog_lt (some : n ≠ 0) : 2 ^ Nat.clog 2 n < 2 * n := by
  rcases Nat.lt_or_ge 1 n with several | single
  · have below := Nat.pow_pred_clog_lt_self one_lt_two several
    have positive : Nat.clog 2 n ≠ 0 := (Nat.clog_pos one_lt_two several).ne'
    calc 2 ^ Nat.clog 2 n
      _ = 2 * 2 ^ (Nat.clog 2 n).pred := by rw [← pow_succ', ← Nat.succ_eq_add_one, Nat.succ_pred positive]
      _ < 2 * n := Nat.mul_lt_mul_of_pos_left below two_pos
  · obtain rfl : n = 1 := by omega
    decide

theorem gapBelow_pos (n : ℕ) : 0 < gapBelow n := by
  unfold gapBelow
  positivity

theorem nearest_eq_roundEven (large : 2 ^ 52 ≤ x) (small : x < 2 ^ 53) : nearest x = roundEven x := by
  have place : lastPlace x = 0 := lastPlace_eq (by simpa using large) (by simpa using small)
  rw [nearest, place, zpow_zero, div_one, mul_one]

theorem two_mul_gapBelow (n : ℕ) : 2 * gapBelow n = 2 ^ (Nat.clog 2 n - 53 : ℤ) := by
  rw [zpow_sub₀ two_ne_zero, zpow_natCast, gapBelow]
  norm_num
  ring

/-- Just below a whole number, the last place is the exponent of twice the
gap. -/
theorem lastPlace_below (some : n ≠ 0) (below : x < n) (close : (n : ℚ) - 1 / 2 ≤ x) :
    lastPlace x = Nat.clog 2 n - 53 := by
  have lower : (2 : ℚ) ^ Nat.clog 2 n + 1 ≤ 2 * n := by exact_mod_cast two_pow_clog_lt some
  have upper : (n : ℚ) ≤ 2 ^ Nat.clog 2 n := by exact_mod_cast Nat.le_pow_clog one_lt_two n
  refine lastPlace_eq ?_ ?_
  · rw [show (Nat.clog 2 n : ℤ) - 53 + 52 = Nat.clog 2 n - 1 by ring, zpow_sub_one₀ two_ne_zero, zpow_natCast]
    linarith
  · rw [sub_add_cancel, zpow_natCast]
    linarith

/-- Numbers just below a whole number are rounded to it if they are not
below the middle of the gap. -/
theorem natCast_le_nearest_iff (few : n ≤ 2 ^ 52) (nonneg : 0 ≤ x) (small : x < 2 ^ 53) (close : (n : ℚ) - 1 / 2 ≤ x) :
    (n : ℚ) ≤ nearest x ↔ n - x ≤ gapBelow n := by
  rcases le_or_gt (n : ℚ) x with above | below
  · exact iff_of_true (natCast_le_nearest small above) (by linarith [gapBelow_pos n])
  have some : n ≠ 0 := by
    rintro rfl
    exact absurd below (not_lt.2 (by simpa using nonneg))
  have place := lastPlace_below some below close
  have unit : (2 : ℚ) ^ lastPlace x = 2 * gapBelow n := by rw [place, two_mul_gapBelow]
  have even : n * 2 ^ (0 - lastPlace x).toNat % 2 = 0 := by
    have most : Nat.clog 2 n ≤ 52 := Nat.clog_le_of_le_pow few
    obtain ⟨m, rest⟩ : ∃ m, (0 - lastPlace x).toNat = m + 1 := ⟨52 - Nat.clog 2 n, by omega⟩
    rw [rest, pow_succ, ← mul_assoc, Nat.mul_mod_left]
  have whole := natCast_eq_mul_place small n
  have positive := place_pos (lastPlace x)
  generalize n * 2 ^ (0 - lastPlace x).toNat = m at even whole
  have scaled : x / 2 ^ lastPlace x < m := (div_lt_iff₀ positive).2 (whole ▸ below)
  calc (n : ℚ) ≤ nearest x
    _ ↔ m ≤ roundEven (x / 2 ^ lastPlace x) := by
      rw [nearest, whole, mul_le_mul_iff_of_pos_right positive, Nat.cast_le]
    _ ↔ m - x / 2 ^ lastPlace x ≤ 1 / 2 := le_roundEven_iff even (div_nonneg nonneg positive.le) scaled
    _ ↔ n - x ≤ gapBelow n := by
      rw [whole, ← mul_le_mul_iff_of_pos_right positive, sub_mul, div_mul_cancel₀ _ positive.ne', unit]
      ring_nf

/-- Rounding does not get from half a unit above a whole number to the next
one. -/
theorem nearest_lt_succ (few : n ≤ 2 ^ 52) (nonneg : 0 ≤ x) (close : x ≤ n + 1 / 2) : nearest x < n + 1 := by
  have few' : (n : ℚ) ≤ 2 ^ 52 := by exact_mod_cast few
  have small : x < 2 ^ 53 := by linarith
  rcases lt_or_eq_of_le (lastPlace_nonpos small) with fine | coarse
  · have half : (n : ℚ) + 1 / 2 = ((2 * n + 1 : ℕ) : ℚ) * 2 ^ (-1 : ℤ) := by
      push_cast
      ring
    rw [half, natCast_mul_place (by omega : lastPlace x ≤ -1)] at close
    have rounded := nearest_le nonneg close
    rw [← natCast_mul_place (by omega : lastPlace x ≤ -1), ← half] at rounded
    linarith
  · -- Without a place for the half, `x` is at least 2 ^ 52, and so is the
    -- number below it, which is even.
    have positive : 0 < x := by
      refine nonneg.lt_of_ne ?_
      rintro rfl
      rw [lastPlace, Int.log_zero_right] at coarse
      cases coarse
    have large : 2 ^ 52 ≤ x := by simpa [coarse] using le_scaled positive
    have even : n = 2 ^ 52 := by
      have : (2 : ℚ) ^ 52 < n + 1 := by linarith
      have : 2 ^ 52 < n + 1 := by exact_mod_cast this
      omega
    have rounded : (roundEven x : ℚ) ≤ n := by
      exact_mod_cast roundEven_le_of_even (by rw [even]; norm_num) nonneg close
    rw [nearest_eq_roundEven large small]
    linarith

/-- From 2 ^ 52 on a double has nothing behind the point. -/
theorem floor_nearest_of_large (large : 2 ^ 52 ≤ x) (small : x < 2 ^ 53) : ⌊nearest x⌋₊ = roundEven x := by
  rw [nearest_eq_roundEven large small, Nat.floor_natCast]

/-- What is left when a number close to a whole one is rounded and then cut
off behind the point. -/
theorem floor_nearest_eq (few : n ≤ 2 ^ 52) (nonneg : 0 ≤ x) (close : |x - n| ≤ 1 / 2) :
    ⌊nearest x⌋₊ = if n - x ≤ gapBelow n then n else n - 1 := by
  have ⟨above, below⟩ := abs_le.1 close
  have few' : (n : ℚ) ≤ 2 ^ 52 := by exact_mod_cast few
  have small : x < 2 ^ 53 := by linarith
  have reached := natCast_le_nearest_iff few nonneg small (by linarith)
  have short := nearest_lt_succ few nonneg (by linarith)
  have rounded : 0 ≤ nearest x := by exact_mod_cast natCast_le_nearest (n := 0) small (by simpa using nonneg)
  split_ifs with within
  · exact (Nat.floor_eq_iff rounded).2 ⟨reached.2 within, short⟩
  · have some : 1 ≤ n := by
      refine Nat.pos_of_ne_zero ?_
      rintro rfl
      have := gapBelow_pos 0
      rw [Nat.cast_zero] at within
      exact within (by linarith)
    have before : ((n - 1 : ℕ) : ℚ) = n - 1 := Nat.cast_pred some
    refine (Nat.floor_eq_iff rounded).2 ⟨natCast_le_nearest small (by rw [before]; linarith), ?_⟩
    rw [before, sub_add_cancel]
    exact not_le.1 (reached.not.2 within)

end Doubles

end ContactGrid
