import ContactGrid.Decimal.Binary
import ContactGrid.Proofs.HalfEven
import Mathlib

-- The whole library is imported because no smaller part of it holds the laws
-- of packed numbers.

namespace ContactGrid

open Float.Model Float.Model.UnpackedFloat

/-- Mantissas of 53 bits, down to the last place of the subnormal doubles. -/
theorem targetExponent_binary64 (e : ℤ) : Format.targetExponent .binary64 e = max (e - 53) (-1074) := rfl

theorem two_pow_exponentBits : (2 : ℤ) ^ Format.exponentBits .binary64 = 2048 := by
  decide

/-- Whether an accuracy tells where a number lies between zero and one. -/
def Locates (rest : ℚ) : Accuracy → Prop
  | .exact => rest = 0
  | .inexact .lt => 0 < rest ∧ rest < 1 / 2
  | .inexact .eq => rest = 1 / 2
  | .inexact .gt => 1 / 2 < rest ∧ rest < 1

/-- A mantissa is a number without what is behind the point, which the two
residual bits tell enough of. -/
def Describes (em : ExtendedMantissa) (x : ℚ) : Prop :=
  Locates (x - em.mantissa) em.accuracy

section Shifting

variable {em : ExtendedMantissa} {x : ℚ}

theorem Locates.bounds {rest : ℚ} {accuracy : Accuracy} (located : Locates rest accuracy) : 0 ≤ rest ∧ rest < 1 := by
  rcases accuracy with _ | _ | _ | _ <;> simp only [Locates] at located <;> constructor <;> linarith

theorem describes_ofMantissaAndAccuracy {m : ℕ} {accuracy : Accuracy} (located : Locates (x - m) accuracy) :
    Describes (.ofMantissaAndAccuracy m accuracy) x := by
  rcases accuracy with _ | _ | _ | _ <;> exact located

theorem Describes.floor_eq (describes : Describes em x) : ⌊x⌋₊ = em.mantissa := by
  have ⟨lower, upper⟩ := Locates.bounds describes
  have natural : (0 : ℚ) ≤ em.mantissa := Nat.cast_nonneg _
  exact (Nat.floor_eq_iff (by linarith)).2 ⟨by linarith, by linarith⟩

theorem Describes.roundedMantissa_eq (describes : Describes em x) : em.roundedMantissa = roundEven x := by
  rw [roundEven, describes.floor_eq, ExtendedMantissa.roundedMantissa]
  unfold Describes at describes
  generalize em.accuracy = accuracy at describes ⊢
  rcases accuracy with _ | _ | _ | _ <;> simp only [Locates] at describes <;>
    simp only [Accuracy.roundToNearestEven] <;> split_ifs <;> first | rfl | linarith

/-- Shifting drops a bit of the mantissa, but no more of the number than was
unknown before. -/
theorem Describes.shiftRightOne (describes : Describes em x) : Describes em.shiftRightOne (x / 2) := by
  obtain ⟨m, round, sticky⟩ := em
  have halves : (m : ℚ) = 2 * (m / 2 : ℕ) + (m % 2 : ℕ) := by exact_mod_cast (Nat.div_add_mod m 2).symm
  rcases Nat.mod_two_eq_zero_or_one m with parity | parity <;> rw [parity] at halves <;>
    cases round <;> cases sticky <;>
    simp_all [Describes, ExtendedMantissa.shiftRightOne, ExtendedMantissa.accuracy, Locates] <;>
    (try constructor) <;> linarith

theorem Describes.shiftRight (describes : Describes em x) (n : ℕ) : Describes (em >>> n) (x / 2 ^ n) := by
  change Describes (n.repeat ExtendedMantissa.shiftRightOne em) _
  induction n with
  | zero => simpa [Nat.repeat] using describes
  | succ n ih =>
    rw [pow_succ, ← div_div]
    exact ih.shiftRightOne

end Shifting

section Rounding

variable {m : ℕ} {e : ℤ} {accuracy : Accuracy} {x : ℚ}

/-- A mantissa of enough bits is shifted until its exponent is the last
place of the number. -/
theorem shiftToTargetExponent_eq (located : Locates (x / 2 ^ e - m) accuracy) (many : 2 ^ 52 ≤ m)
    (least : -1074 ≤ lastPlace x) :
    ∃ em, shiftToTargetExponent .binary64 m e accuracy = (em, lastPlace x) ∧ Describes em (x / 2 ^ lastPlace x) := by
  have some : m ≠ 0 := by omega
  have ⟨lower, upper⟩ := located.bounds
  have place : lastPlace x = m.log2 - 52 + e := by
    refine lastPlace_eq ?_ ?_
    · have : (2 : ℚ) ^ m.log2 ≤ m := by exact_mod_cast Nat.log2_self_le some
      rw [show (m.log2 : ℤ) - 52 + e + 52 = m.log2 + e by ring, zpow_add₀ two_ne_zero, zpow_natCast,
        ← le_div_iff₀ (place_pos e)]
      linarith
    · have : (m : ℚ) + 1 ≤ 2 ^ (m.log2 + 1) := by exact_mod_cast Nat.lt_log2_self
      rw [show (m.log2 : ℤ) - 52 + e + 53 = (m.log2 + 1 : ℕ) + e by push_cast; ring, zpow_add₀ two_ne_zero,
        zpow_natCast, ← div_lt_iff₀ (place_pos e)]
      linarith
  have bits : 52 ≤ m.log2 := (Nat.le_log2 some).2 many
  have target : Format.targetExponent .binary64 (totalExponent m e) = lastPlace x := by
    rw [targetExponent_binary64, totalExponent]
    omega
  have shift : (((lastPlace x - e).toNat : ℕ) : ℤ) = lastPlace x - e := Int.toNat_of_nonneg (by omega)
  have scaled : x / 2 ^ lastPlace x = x / 2 ^ e / 2 ^ (lastPlace x - e).toNat := by
    rw [← zpow_natCast, shift, div_div, ← zpow_add₀ two_ne_zero, add_sub_cancel]
  refine ⟨_, ?_, scaled ▸ (describes_ofMantissaAndAccuracy located).shiftRight _⟩
  rw [shiftToTargetExponent, target, shiftToExponent, shift, add_sub_cancel]

/-- A number as a double holds it, unless it is subnormal. -/
inductive UnpacksTo : UnpackedFloat → ℚ → Prop
  | zero : UnpacksTo (.zero .positive) 0
  | finite {m : ℕ} {e : ℤ} {x : ℚ} (positive : 0 < m) (many : 2 ^ 52 ≤ m) (few : m < 2 ^ 53) (least : -1074 ≤ e)
      (most : e ≤ 971) (value : (m : ℚ) * 2 ^ e = x) : UnpacksTo (.finite .positive m e positive) x

/-- Numbers that are neither rounded to subnormal doubles nor to infinity. -/
structure Ordinary (x : ℚ) : Prop where
  lower : 2 ^ (-1022 : ℤ) ≤ x
  upper : x < 2 ^ (1023 : ℤ)

namespace Ordinary

theorem positive (ordinary : Ordinary x) : 0 < x :=
  (place_pos _).trans_le ordinary.lower

theorem least (ordinary : Ordinary x) : -1074 ≤ lastPlace x := by
  have := (Int.zpow_le_iff_le_log one_lt_two ordinary.positive).1 ordinary.lower
  rw [lastPlace]
  omega

theorem most (ordinary : Ordinary x) : lastPlace x ≤ 970 := by
  have := (Int.lt_zpow_iff_log_lt one_lt_two ordinary.positive).1 ordinary.upper
  rw [lastPlace]
  omega

end Ordinary

/-- Rounding a mantissa of enough bits finds the nearest double. -/
theorem unpacksTo_roundWithAccuracy (located : Locates (x / 2 ^ e - m) accuracy) (many : 2 ^ 52 ≤ m)
    (ordinary : Ordinary x) : UnpacksTo (roundWithAccuracy .binary64 .positive m e accuracy) (nearest x) := by
  obtain ⟨em, shifted, describes⟩ := shiftToTargetExponent_eq located many ordinary.least
  obtain ⟨k, kMany, kFew, value, above, below⟩ := exists_nearest_eq ordinary.positive
  have least := ordinary.least
  have most := ordinary.most
  -- The rounded mantissa is shifted a second time, since rounding may have
  -- carried into one more bit.
  have exact : Locates (nearest x / 2 ^ lastPlace x - em.roundedMantissa) .exact := by
    rw [describes.roundedMantissa_eq, nearest, mul_div_cancel_right₀ _ (place_pos _).ne']
    exact sub_self _
  have roundedMany : 2 ^ 52 ≤ em.roundedMantissa := by
    rw [describes.roundedMantissa_eq]
    exact le_roundEven (by exact_mod_cast le_scaled ordinary.positive)
  obtain ⟨em', shifted', describes'⟩ := shiftToTargetExponent_eq exact roundedMany (by omega)
  have mantissa : em'.mantissa = k := by
    rw [← describes'.floor_eq, div_eq_iff (place_pos _).ne' |>.2 value, Nat.floor_natCast]
  have some : em'.mantissa ≠ 0 := by omega
  simp only [roundWithAccuracy, shifted, shifted']
  rw [dif_neg some]
  exact .finite _ (by omega) (by omega) (by omega) (by omega) (by rw [mantissa, ← value])

theorem ofNat_ne_of_toNat {width k : ℕ} {word : BitVec width} (fits : k < 2 ^ width) (other : k ≠ word.toNat) :
    BitVec.ofNat width k ≠ word := by
  rintro rfl
  rw [BitVec.toNat_ofNat, Nat.mod_eq_of_lt fits] at other
  exact other rfl

/-- Packing keeps a number and its parts. -/
theorem UnpacksTo.unpack_pack {u : UnpackedFloat} (unpacks : UnpacksTo u x) :
    unpack .binary64 (pack .binary64 u) = u := by
  cases unpacks with
  | zero => exact unpack_packedZero
  | @finite m e _ positive many few least most value =>
    have bits : m.log2 + 1 = Format.mantissaBits .binary64 := by
      rw [(Nat.log2_eq_iff positive.ne').2 ⟨many, few⟩]
      rfl
    have bias : (Format.exponentBias .binary64 : ℤ) = 1023 := by decide
    obtain ⟨biased, exponent⟩ : ∃ biased : ℕ, (biased : ℤ) = e + 1075 := ⟨(e + 1075).toNat, by omega⟩
    have shifted : (e + (Format.exponentBias .binary64 : ℤ) + ((52 : ℕ) : ℤ)).toNat = biased := by omega
    have word : (BitVec.ofNat 11 biased).toNat = biased := by
      rw [BitVec.toNat_ofNat, Nat.mod_eq_of_lt (by omega)]
    have notZero : BitVec.ofNat 11 biased ≠ 0#11 := ofNat_ne_of_toNat (by omega) (by rw [BitVec.toNat_zero]; omega)
    have notOnes : BitVec.ofNat 11 biased ≠ -1#11 :=
      ofNat_ne_of_toNat (by omega) (by rw [BitVec.neg_one_eq_allOnes, BitVec.toNat_allOnes]; omega)
    have mantissa : (1#1 ++ BitVec.ofNat 52 m).toNat = m := by
      rw [BitVec.toNat_append, ← Nat.shiftLeft_add_eq_or_of_lt (BitVec.isLt _), BitVec.toNat_ofNat, BitVec.toNat_ofNat]
      omega
    simp only [UnpackedFloat.pack, shifted, bits]
    rw [if_neg (by omega), if_pos trivial, UnpackedFloat.unpack]
    simp only [unpackMantissa_packComponents, unpackExponent_packComponents, unpackSign_packComponents,
      Sign.ofBitVec_toBitVec, notZero, notOnes, if_false, mantissa, word]
    congr 1
    omega

end Rounding

section Operations

variable {m n : ℕ} {e f : ℤ} {x y : ℚ} {u v : UnpackedFloat}

theorem unpacksTo_mul_finite (mPositive : 0 < m) (nPositive : 0 < n) (many : 2 ^ 52 ≤ m * n)
    (ordinary : Ordinary (m * 2 ^ e * (n * 2 ^ f))) :
    UnpacksTo (UnpackedFloat.mul .binary64 (.finite .positive m e mPositive) (.finite .positive n f nPositive))
      (nearest (m * 2 ^ e * (n * 2 ^ f))) := by
  have value : (m * 2 ^ e * (n * 2 ^ f) : ℚ) / 2 ^ (e + f) = (m * n : ℕ) := by
    rw [zpow_add₀ two_ne_zero, div_eq_iff (mul_pos (place_pos e) (place_pos f)).ne']
    push_cast
    ring
  have located : Locates ((m * 2 ^ e * (n * 2 ^ f) : ℚ) / 2 ^ (e + f) - (m * n : ℕ)) .exact := by
    rw [value]
    exact sub_self _
  exact unpacksTo_roundWithAccuracy located many ordinary

theorem UnpacksTo.mul (left : UnpacksTo u x) (right : UnpacksTo v y) (range : x * y ≠ 0 → Ordinary (x * y)) :
    UnpacksTo (UnpackedFloat.mul .binary64 u v) (nearest (x * y)) := by
  cases left with
  | zero =>
    rw [zero_mul, nearest_zero]
    cases right <;> exact .zero
  | finite mPositive many few _ _ value =>
    cases right with
    | zero =>
      rw [mul_zero, nearest_zero]
      exact .zero
    | finite nPositive many' _ _ _ value' =>
      subst value value'
      exact unpacksTo_mul_finite mPositive nPositive (many.trans (Nat.le_mul_of_pos_right _ nPositive))
        (range (by positivity))

theorem locates_accuracyOfFraction (proper : m < n) : Locates (m / n) (accuracyOfFraction m n) := by
  have positive : (0 : ℚ) < n := by exact_mod_cast (Nat.zero_le m).trans_lt proper
  have below : (m : ℚ) / n < 1 := (div_lt_one positive).2 (by exact_mod_cast proper)
  rw [accuracyOfFraction]
  split_ifs with none
  · rw [none, Nat.cast_zero, zero_div]
    rfl
  have some : (0 : ℚ) < m / n := div_pos (by exact_mod_cast Nat.pos_of_ne_zero none) positive
  rcases Nat.lt_trichotomy (2 * m) n with less | same | more
  · rw [Nat.compare_eq_lt.2 less]
    have less : (2 : ℚ) * m < n := by exact_mod_cast less
    exact ⟨some, by rw [div_lt_iff₀ positive]; linarith⟩
  · rw [Nat.compare_eq_eq.2 same]
    have same : (2 : ℚ) * m = n := by exact_mod_cast same
    exact (div_eq_iff positive.ne').2 (by linarith)
  · rw [Nat.compare_eq_gt.2 more]
    have more : (n : ℚ) < 2 * m := by exact_mod_cast more
    exact ⟨by rw [lt_div_iff₀ positive]; linarith, below⟩

theorem locates_quotient (nPositive : 0 < n) (m : ℕ) :
    Locates ((m : ℚ) / n - (m / n : ℕ)) (accuracyOfFraction (m % n) n) := by
  have positive : (0 : ℚ) < n := by exact_mod_cast nPositive
  have parts : (m : ℚ) = n * (m / n : ℕ) + (m % n : ℕ) := by exact_mod_cast (Nat.div_add_mod m n).symm
  have rest : (m : ℚ) / n - (m / n : ℕ) = (m % n : ℕ) / n := by
    rw [sub_eq_iff_eq_add, add_comm, div_eq_iff positive.ne', add_mul, div_mul_cancel₀ _ positive.ne', mul_comm]
    exact parts
  rw [rest]
  exact locates_accuracyOfFraction (Nat.mod_lt _ nPositive)

/-- A dividend is shifted as far as the last place of the quotient asks
for. -/
theorem quotient_div_place {s : ℕ} {target : ℤ} (shift : (s : ℤ) = e - f - target) (m n : ℕ) :
    (m * 2 ^ e / (n * 2 ^ f) : ℚ) / 2 ^ target = (m <<< s : ℕ) / n := by
  have moved : (2 : ℚ) ^ e = 2 ^ s * 2 ^ f * 2 ^ target := by
    rw [← zpow_natCast, ← zpow_add₀ two_ne_zero, ← zpow_add₀ two_ne_zero]
    congr 1
    omega
  rw [Nat.shiftLeft_eq, moved]
  push_cast
  field_simp

/-- A quotient is at least what its leading places promise. -/
theorem two_zpow_le_quotient (mPositive : 0 < m) (nPositive : 0 < n) :
    (2 : ℚ) ^ (totalExponent m e - totalExponent n f - 1) ≤ m * 2 ^ e / (n * 2 ^ f) := by
  have lower : (2 : ℚ) ^ m.log2 ≤ m := by exact_mod_cast Nat.log2_self_le mPositive.ne'
  have upper : (n : ℚ) ≤ 2 ^ (n.log2 + 1) := by exact_mod_cast Nat.lt_log2_self.le
  have positive : (0 : ℚ) < n := by exact_mod_cast nPositive
  rw [le_div_iff₀ (mul_pos positive (place_pos f))]
  calc (2 : ℚ) ^ (totalExponent m e - totalExponent n f - 1) * (n * 2 ^ f)
    _ ≤ 2 ^ (totalExponent m e - totalExponent n f - 1) * (2 ^ (n.log2 + 1) * 2 ^ f) := by gcongr
    _ = 2 ^ m.log2 * 2 ^ e := by
      rw [← zpow_natCast, ← zpow_natCast, ← zpow_add₀ two_ne_zero, ← zpow_add₀ two_ne_zero, ← zpow_add₀ two_ne_zero]
      congr 1
      simp only [totalExponent]
      push_cast
      ring
    _ ≤ m * 2 ^ e := by gcongr

/-- A quotient is found with at least 53 places. -/
theorem unpacksTo_div_finite (mPositive : 0 < m) (nPositive : 0 < n) (ordinary : Ordinary (m * 2 ^ e / (n * 2 ^ f))) :
    UnpacksTo (UnpackedFloat.div .binary64 (.finite .positive m e mPositive) (.finite .positive n f nPositive))
      (nearest (m * 2 ^ e / (n * 2 ^ f))) := by
  have positive : (0 : ℚ) < n := by exact_mod_cast nPositive
  have quotient := two_zpow_le_quotient (e := e) (f := f) mPositive nPositive
  simp only [UnpackedFloat.div, divCore, targetExponent_binary64]
  generalize targeted : min (e - f) (max (totalExponent m e - totalExponent n f - 53) (-1074)) = target
  have shift : (((e - f - target).toNat : ℕ) : ℤ) = e - f - target := Int.toNat_of_nonneg (by omega)
  generalize (e - f - target).toNat = s at shift ⊢
  have scaled := quotient_div_place shift m n
  have many : 2 ^ 52 ≤ (m <<< s) / n := by
    rw [Nat.le_div_iff_mul_le nPositive]
    have enough : (2 : ℚ) ^ (target + 52) ≤ m * 2 ^ e / (n * 2 ^ f) := by
      rcases le_total (-1074) (totalExponent m e - totalExponent n f - 53) with normal | bottom
      · refine (zpow_le_zpow_right₀ one_le_two ?_).trans quotient
        omega
      · refine (zpow_le_zpow_right₀ one_le_two ?_).trans ordinary.lower
        omega
    have scaledEnough : (2 : ℚ) ^ 52 ≤ (m <<< s : ℕ) / n := by
      rw [← scaled, le_div_iff₀ (place_pos _), ← zpow_natCast, ← zpow_add₀ two_ne_zero, add_comm]
      exact enough
    exact_mod_cast (le_div_iff₀ positive).1 scaledEnough
  have located : Locates ((m * 2 ^ e / (n * 2 ^ f) : ℚ) / 2 ^ target - ((m <<< s) / n : ℕ))
      (accuracyOfFraction ((m <<< s) % n) n) := by
    rw [scaled]
    exact locates_quotient nPositive _
  exact unpacksTo_roundWithAccuracy located many ordinary

theorem UnpacksTo.div (left : UnpacksTo u x) (right : UnpacksTo v y) (some : y ≠ 0)
    (range : x / y ≠ 0 → Ordinary (x / y)) :
    UnpacksTo (UnpackedFloat.div .binary64 u v) (nearest (x / y)) := by
  cases right with
  | zero => exact absurd rfl some
  | finite nPositive _ _ _ _ value' =>
    cases left with
    | zero =>
      rw [zero_div, nearest_zero]
      exact .zero
    | finite mPositive _ _ _ _ value =>
      subst value value'
      exact unpacksTo_div_finite mPositive nPositive (range (by positivity))

/-- Whole numbers of up to 53 bits are doubles. -/
theorem unpacksTo_ofNat (few : n < 2 ^ 53) : UnpacksTo (UnpackedFloat.ofNat .binary64 n) n := by
  rcases Nat.eq_zero_or_pos n with rfl | positive
  · rw [Nat.cast_zero]
    exact .zero
  have bits : n.log2 < 53 := (Nat.log2_lt positive.ne').2 few
  have target : Format.targetExponent .binary64 (totalExponent n 0) = -((52 - n.log2 : ℕ) : ℤ) := by
    rw [targetExponent_binary64, totalExponent]
    omega
  have many : 2 ^ 52 ≤ n <<< (52 - n.log2) := by
    rw [Nat.shiftLeft_eq]
    calc 2 ^ 52
      _ = 2 ^ n.log2 * 2 ^ (52 - n.log2) := by rw [← pow_add]; congr 1; omega
      _ ≤ n * 2 ^ (52 - n.log2) := Nat.mul_le_mul_right _ (Nat.log2_self_le positive.ne')
  have located : Locates ((n : ℚ) / 2 ^ (-((52 - n.log2 : ℕ) : ℤ)) - (n <<< (52 - n.log2) : ℕ)) .exact := by
    rw [Nat.shiftLeft_eq, zpow_neg, zpow_natCast, div_inv_eq_mul]
    push_cast
    exact sub_self _
  have ordinary : Ordinary (n : ℚ) := by
    constructor
    · refine (zpow_le_one_of_nonpos₀ one_le_two (by norm_num)).trans ?_
      exact_mod_cast positive
    · have few : (n : ℚ) < 2 ^ (53 : ℤ) := by exact_mod_cast few
      exact few.trans_le (zpow_le_zpow_right₀ one_le_two (by norm_num))
  have rounded := unpacksTo_roundWithAccuracy located many ordinary
  rw [nearest_natCast few] at rounded
  have greater : compare (n : ℤ) 0 = .gt := Int.compare_eq_gt.2 (by omega)
  simp only [UnpackedFloat.ofNat, UnpackedFloat.ofInt, UnpackedFloat.normalize, greater, UnpackedFloat.round,
    Int.toNat_natCast, target, decreaseExponent, Int.zero_sub, Int.neg_neg]
  exact rounded

/-- Taking the whole part shifts the mantissa to the point, one way or the
other. -/
theorem roundToInt_eq (m : ℕ) (e : ℤ) : roundToInt .positive m e = (⌊(m : ℚ) * 2 ^ e⌋₊ : ℤ) := by
  obtain ⟨up, raised⟩ : ∃ up : ℕ, (e - 0).toNat = up := ⟨_, rfl⟩
  obtain ⟨down, lowered⟩ : ∃ down : ℕ, (0 - (e - (up : ℤ))).toNat = down := ⟨_, rfl⟩
  have exponent : e = (up : ℤ) - down := by omega
  have exact : Locates (((m <<< up : ℕ) : ℚ) - (m <<< up : ℕ)) .exact := sub_self _
  have describes := (describes_ofMantissaAndAccuracy exact).shiftRight down
  have value : (m : ℚ) * 2 ^ e = (m <<< up : ℕ) / 2 ^ down := by
    rw [exponent, zpow_sub₀ two_ne_zero, zpow_natCast, zpow_natCast, Nat.shiftLeft_eq]
    push_cast
    ring
  simp only [roundToInt, decreaseExponent, shiftToExponent, raised, lowered]
  rw [value, describes.floor_eq]
  rfl

end Operations

/-- The number that a double stores, if it is zero or positive and not
subnormal. -/
def Stores (f : Float) (x : ℚ) : Prop :=
  UnpacksTo f.toModel.unpack x

section Stored

variable {f g : Float} {x y : ℚ} {m n : ℕ}

theorem UnpacksTo.stores {u : UnpackedFloat} (unpacks : UnpacksTo u x) : Stores (.ofModel (Float.Model.pack u)) x := by
  have unpacked : (Float.ofModel (Float.Model.pack u)).toModel.unpack = u := unpacks.unpack_pack
  rwa [Stores, unpacked]

namespace Stores

theorem mul (left : Stores f x) (right : Stores g y) (range : x * y ≠ 0 → Ordinary (x * y)) :
    Stores (f * g) (nearest (x * y)) :=
  (UnpacksTo.mul left right range).stores

theorem div (left : Stores f x) (right : Stores g y) (some : y ≠ 0) (range : x / y ≠ 0 → Ordinary (x / y)) :
    Stores (f / g) (nearest (x / y)) :=
  (UnpacksTo.div left right some range).stores

theorem ofNat (few : n < 2 ^ 53) : Stores n.toUInt64.toFloat n := by
  have same : n.toUInt64.toNat = n := UInt64.toNat_ofNat_of_lt' (few.trans (by decide))
  have conversion : n.toUInt64.toFloat = .ofModel (Float.Model.pack (UnpackedFloat.ofNat .binary64 n)) := by
    conv_rhs => rw [← same]
    rfl
  rw [conversion]
  exact (unpacksTo_ofNat few).stores

/-- Conversion to a word cuts off what is behind the point. -/
theorem toUInt64_eq (stored : Stores f x) (small : x < 2 ^ 64) : f.toUInt64.toNat = ⌊x⌋₊ := by
  change f.toModel.unpack.toUInt64.toNat = _
  unfold Stores at stored
  generalize f.toModel.unpack = u at stored
  cases stored with
  | zero => rw [Nat.floor_zero]; rfl
  | @finite m e _ positive _ _ _ _ value =>
    have nonneg : 0 ≤ x := value ▸ by positivity
    have fits : ⌊x⌋₊ < UInt64.size := (Nat.floor_lt nonneg).2 (by exact_mod_cast small)
    rw [UnpackedFloat.toUInt64, UnpackedFloat.toInt, roundToInt_eq, value, Int.toNat_natCast,
      UInt64.toNat_ofNatClamp_of_lt fits]

end Stores

/-- Whether a double stores a positive whole number. -/
def storesNat (f : Float) (n : ℕ) : Bool :=
  match Dyadic.ofFloat f with
  | .finite false m e =>
    decide (2 ^ 52 ≤ m ∧ m < 2 ^ 53 ∧ -1074 ≤ e ∧ e ≤ 971 ∧ m * 2 ^ e.toNat = n * 2 ^ (-e).toNat)
  | _ => false

theorem stores_of_storesNat (stored : storesNat f n = true) : Stores f n := by
  unfold storesNat Dyadic.ofFloat at stored
  unfold Stores
  generalize f.toModel.unpack = u at stored ⊢
  rcases u with s | _ | s | ⟨s, m, e, positive⟩
  case finite =>
    cases s with
    | negative => cases stored
    | positive =>
      obtain ⟨many, few, least, most, value⟩ := of_decide_eq_true stored
      refine .finite positive many few least most ?_
      have value : (m : ℚ) * 2 ^ e.toNat = n * 2 ^ (-e).toNat := by exact_mod_cast value
      have split : (2 : ℚ) ^ e * 2 ^ (-e).toNat = 2 ^ e.toNat := by
        rw [← zpow_natCast, ← zpow_natCast, ← zpow_add₀ two_ne_zero]
        congr 1
        omega
      refine mul_right_cancel₀ (pow_ne_zero (-e).toNat two_ne_zero) ?_
      rw [mul_assoc, split, value]
  case zero => cases s <;> cases stored
  all_goals cases stored

theorem size_powersOfTen : Float.exactlyRepresentablePowersOfTen.size = 23 := rfl

/-- The table of powers of ten is exact. -/
theorem stores_powerOfTen {e : ℕ} (inside : e < Float.exactlyRepresentablePowersOfTen.size) :
    Stores Float.exactlyRepresentablePowersOfTen[e] (10 ^ e : ℕ) := by
  have all : ∀ i : Fin 23, storesNat Float.exactlyRepresentablePowersOfTen[i] (10 ^ (i : ℕ)) = true := by
    decide +kernel
  exact stores_of_storesNat (all ⟨e, inside⟩)

theorem unpacksTo_ofScientific_whole {c : ℕ} (positive : 0 < c) (ordinary : Ordinary (c : ℚ)) :
    UnpacksTo (UnpackedFloat.ofScientific .binary64 c 0) (nearest c) := by
  have value : ((c <<< 53 : ℕ) : ℚ) * 2 ^ (-53 : ℤ) * ((10 ^ 0 : ℕ) * 2 ^ (0 : ℤ)) = c := by
    rw [Nat.shiftLeft_eq, zpow_neg]
    push_cast
    norm_num
    ring
  have many : 2 ^ 52 ≤ c <<< 53 * 10 ^ 0 := by
    rw [Nat.shiftLeft_eq]
    omega
  have shifted : 0 < c <<< 53 := Nat.shiftLeft_pos_iff.2 positive
  have product := unpacksTo_mul_finite (e := -53) (f := 0) shifted (Nat.pow_pos (n := 0) (by decide : 0 < 10)) many
    (value.symm ▸ ordinary)
  rw [value] at product
  rw [UnpackedFloat.ofScientific, dif_neg positive.ne', two_pow_exponentBits, if_neg (by omega), if_neg (by omega), if_pos le_rfl]
  exact product

/-- A fraction that is not tiny has no more places than are worth the powers
of ten. -/
theorem Ordinary.places_lt {c e : ℕ} (ordinary : Ordinary ((c : ℚ) / 10 ^ e)) : e < c.log2 + 1023 := by
  have enough : (10 : ℚ) ^ e ≤ c * 2 ^ 1022 := by
    have lower := ordinary.lower
    rw [zpow_neg, inv_eq_one_div, div_le_div_iff₀ (by positivity) (by positivity), one_mul] at lower
    exact_mod_cast lower
  have enough : 10 ^ e ≤ c * 2 ^ 1022 := by exact_mod_cast enough
  have bits : c < 2 ^ (c.log2 + 1) := Nat.lt_log2_self
  change e < c.log2 + 1 + 1022
  generalize 1022 = k at enough ⊢
  refine (Nat.pow_lt_pow_iff_right (by decide : 1 < 2)).1 ?_
  calc 2 ^ e
    _ ≤ 10 ^ e := Nat.pow_le_pow_left (by decide) e
    _ ≤ c * 2 ^ k := enough
    _ < 2 ^ (c.log2 + 1) * 2 ^ k := Nat.mul_lt_mul_of_pos_right bits (Nat.two_pow_pos k)
    _ = 2 ^ (c.log2 + 1 + k) := (pow_add 2 _ _).symm

theorem unpacksTo_ofScientific_fraction {c e : ℕ} (some : e ≠ 0) (positive : 0 < c)
    (ordinary : Ordinary ((c : ℚ) / 10 ^ e)) :
    UnpacksTo (UnpackedFloat.ofScientific .binary64 c (Int.negOfNat e)) (nearest (c / 10 ^ e)) := by
  have places := ordinary.places_lt
  have exponent : Int.negOfNat e = -(e : ℤ) := Int.negOfNat_eq
  have value : (c : ℚ) * 2 ^ (0 : ℤ) / ((10 ^ e : ℕ) * 2 ^ (0 : ℤ)) = c / 10 ^ e := by
    push_cast
    simp only [mul_one]
  have quotient := unpacksTo_div_finite (e := 0) (f := 0) positive (Nat.pow_pos (n := e) (by decide : 0 < 10))
    (value.symm ▸ ordinary)
  rw [value] at quotient
  rw [exponent, UnpackedFloat.ofScientific, dif_neg positive.ne', two_pow_exponentBits, if_neg (by omega), if_neg (by omega),
    if_neg (by omega)]
  simpa using quotient

/-- A whole number is read as the nearest double, on the fast path and on
the slow one. -/
theorem stores_ofScientific_whole {c : ℕ} (range : (c : ℚ) ≠ 0 → Ordinary (c : ℚ)) :
    Stores (Float.ofScientific c false 0) (nearest c) := by
  unfold Float.ofScientific
  split
  · rename_i small
    have one := stores_powerOfTen (e := 0) (by rw [size_powersOfTen]; decide)
    have product := (Stores.ofNat small.1).mul one (by simpa using range)
    simpa using product
  · rename_i large
    have positive : 0 < c := by
      refine Nat.pos_of_ne_zero ?_
      rintro rfl
      exact large (by decide)
    exact (unpacksTo_ofScientific_whole positive (range (by positivity))).stores

/-- A decimal fraction is read as the nearest double, too. -/
theorem stores_ofScientific_fraction {c e : ℕ} (some : e ≠ 0)
    (range : (c : ℚ) / 10 ^ e ≠ 0 → Ordinary ((c : ℚ) / 10 ^ e)) :
    Stores (Float.ofScientific c true e) (nearest (c / 10 ^ e)) := by
  unfold Float.ofScientific
  split
  · rename_i small
    have power := stores_powerOfTen (e := e) (by rw [size_powersOfTen]; omega)
    have quotient := (Stores.ofNat small.1).div power (by positivity) (by simpa using range)
    simpa using quotient
  · rcases Nat.eq_zero_or_pos c with rfl | positive
    · rw [Nat.cast_zero, zero_div, nearest_zero]
      exact UnpacksTo.zero.stores
    · exact (unpacksTo_ofScientific_fraction some positive (range (by positivity))).stores

end Stored

end ContactGrid
