import ContactGrid.Bench.Count
import ContactGrid.Proofs.Doubles

namespace ContactGrid.Bench

inductive Suffix where
  | thousand (capital : Bool)
  | million (capital : Bool)

namespace Suffix

def char : Suffix → Char
  | thousand capital => if capital then 'K' else 'k'
  | million capital => if capital then 'M' else 'm'

/-- What the character becomes in lower case. -/
def lower : Suffix → Char
  | thousand _ => 'k'
  | million _ => 'm'

def scale : Suffix → ℕ
  | thousand _ => 1000
  | million _ => 1000000

end Suffix

/-- A count as it is written: digits, maybe a point and the digits behind
it, and maybe a suffix. -/
structure WrittenCount where
  whole : List Char
  fraction : Option (List Char)
  suffix : Option Suffix
  started : whole ≠ []
  digits : ∀ c ∈ whole ++ fraction.getD [], c.isDigit = true

namespace WrittenCount

/-- Digits behind the point. -/
def places (w : WrittenCount) : List Char :=
  w.fraction.getD []

def numeral (w : WrittenCount) : List Char :=
  match w.fraction with
  | none => w.whole
  | some places => w.whole ++ '.' :: places

def text (w : WrittenCount) : String :=
  String.ofList (w.numeral ++ (w.suffix.map Suffix.char).toList)

def scale (w : WrittenCount) : ℕ :=
  (w.suffix.map Suffix.scale).getD 1

/-- The number that stands before the suffix. -/
def value (w : WrittenCount) : ℚ :=
  Nat.ofDigitChars 10 w.whole 0 + Nat.ofDigitChars 10 w.places 0 / 10 ^ w.places.length

end WrittenCount

theorem toNat_le_of_isDigit {c : Char} (digit : c.isDigit = true) : 48 ≤ c.toNat ∧ c.toNat ≤ 57 := by
  simp only [Char.isDigit, Bool.and_eq_true, decide_eq_true_eq, ge_iff_le] at digit
  exact ⟨UInt32.le_iff_toNat_le.1 digit.1, UInt32.le_iff_toNat_le.1 digit.2⟩

section Lowercase

variable {text rest before : List Char} {c : Char}

/-- Characters before the capital letters are in lower case already. -/
theorem lowerChar_eq_self (early : c.toNat < 65) : lowerChar c = [c] := by
  have none : lowerRanges.find? (·.holds c.toNat) = none := by
    have firsts : lowerRanges.all (65 ≤ ·.first) = true := by decide +kernel
    refine List.find?_eq_none.2 fun r member => ?_
    have := of_decide_eq_true (List.all_eq_true.1 firsts r member)
    simp only [CaseRange.holds, Bool.and_eq_true, decide_eq_true_eq]
    omega
  have dotless : c ≠ 'İ' := by
    rintro rfl
    exact absurd early (by decide)
  rw [lowerChar, if_neg dotless, none]

theorem lowerFrom_append (early : ∀ c ∈ text, c.toNat < 65) (before : List Char) :
    lowerFrom before (text ++ rest) = text ++ lowerFrom (text.reverse ++ before) rest := by
  induction text generalizing before with
  | nil => rfl
  | cons c text ih =>
    obtain ⟨first, others⟩ := List.forall_mem_cons.1 early
    have plain : c ≠ 'Σ' := by
      rintro rfl
      exact absurd first (by decide)
    simp only [List.cons_append, lowerFrom, if_neg plain, lowerChar_eq_self first, ih others, List.reverse_cons,
      List.append_assoc, List.nil_append]

end Lowercase

namespace WrittenCount

variable (w : WrittenCount)

theorem whole_digits : ∀ c ∈ w.whole, c.isDigit = true := fun c member =>
  w.digits c (List.mem_append_left _ member)

theorem places_digits : ∀ c ∈ w.places, c.isDigit = true := fun c member =>
  w.digits c (List.mem_append_right _ member)

variable {w} in
theorem isDigit_or_point {c : Char} (member : c ∈ w.numeral) : c.isDigit = true ∨ c = '.' := by
  have places := w.places_digits
  unfold WrittenCount.places at places
  unfold numeral at member
  cases shape : w.fraction with
  | none =>
    rw [shape] at member
    exact Or.inl (w.whole_digits c member)
  | some digits =>
    rw [shape] at member places
    rcases List.mem_append.1 member with whole | rest
    · exact Or.inl (w.whole_digits c whole)
    · rcases List.mem_cons.1 rest with point | behind
      · exact Or.inr point
      · exact Or.inl (places c behind)

theorem numeral_early : ∀ c ∈ w.numeral, c.toNat < 65 := by
  intro c member
  rcases isDigit_or_point member with digit | rfl
  · exact Nat.lt_of_le_of_lt (toNat_le_of_isDigit digit).2 (by decide)
  · decide

theorem lowercase_text : (lowercase w.text).toList = w.numeral ++ (w.suffix.map Suffix.lower).toList := by
  rw [lowercase, text, String.toList_ofList, String.toList_ofList, lowerFrom_append w.numeral_early]
  congr 1
  rcases w.suffix with _ | capital | capital
  · rfl
  · cases capital <;> rfl
  · cases capital <;> rfl

/-- The suffix is found, and its scale is exact. -/
theorem splitScale_lowercase :
    ∃ scale, splitScale (w.numeral ++ (w.suffix.map Suffix.lower).toList) = (w.numeral, scale) ∧
      Stores scale w.scale := by
  have notLast {c : Char} (late : 65 ≤ c.toNat) : w.numeral.getLast? ≠ some c := by
    intro last
    have := w.numeral_early c (List.mem_of_getLast? last)
    omega
  unfold scale splitScale
  rcases w.suffix with _ | capital | capital
  · refine ⟨1, ?_, stores_of_storesNat (by decide +kernel)⟩
    simp only [Option.map_none, Option.toList_none, List.append_nil]
    rw [if_neg (notLast (by decide)), if_neg (notLast (by decide))]
  · refine ⟨1000, ?_, stores_of_storesNat (n := 1000) (by decide +kernel)⟩
    simp [Suffix.lower]
  · refine ⟨1000000, ?_, stores_of_storesNat (n := 1000000) (by decide +kernel)⟩
    simp [Suffix.lower]

/-- Digits with the point left out. -/
def coefficient (w : WrittenCount) : ℕ :=
  Nat.ofDigitChars 10 (w.whole ++ w.places) 0

theorem value_eq : w.value = w.coefficient / 10 ^ w.places.length := by
  have joined := @Nat.ofDigitChars_eq_ofDigitChars_zero w.places (Nat.ofDigitChars 10 w.whole 0)
  rw [value, coefficient, Nat.ofDigitChars_append, joined]
  push_cast
  rw [add_div, mul_div_cancel_left₀ _ (by positivity)]

theorem digitsValue_eq (digits : List Char) : Numeral.digitsValue digits = Nat.ofDigitChars 10 digits 0 :=
  Nat.ofDigitChars_eq_foldl.symm

theorem sign_numeral : Numeral.sign w.numeral = (false, w.numeral) := by
  obtain ⟨c, rest, shape⟩ := List.exists_cons_of_ne_nil w.started
  have digit : c.isDigit = true := w.whole_digits c (by rw [shape]; exact List.mem_cons_self)
  obtain ⟨rest, starts⟩ : ∃ rest, w.numeral = c :: rest := by
    unfold numeral
    rw [shape]
    split <;> exact ⟨_, rfl⟩
  rw [starts]
  unfold Numeral.sign
  split
  · rename_i same
    cases same
    cases digit
  · rename_i same
    cases same
    cases digit
  · rfl

theorem magnitude_numeral : Numeral.magnitude? w.numeral = some (w.coefficient, 0 - (w.places.length : ℤ)) := by
  have places := w.places_digits
  have started : w.whole.isEmpty = false := by simpa using w.started
  have takeWhole (rest : List Char) :
      (w.whole ++ rest).takeWhile Char.isDigit = w.whole ++ rest.takeWhile Char.isDigit :=
    List.takeWhile_append_of_pos w.whole_digits
  have dropWhole (rest : List Char) : (w.whole ++ rest).dropWhile Char.isDigit = rest.dropWhile Char.isDigit :=
    List.dropWhile_append_of_pos w.whole_digits
  unfold Numeral.magnitude? numeral coefficient
  unfold WrittenCount.places at places ⊢
  cases shape : w.fraction with
  | none =>
    have whole := takeWhole []
    have rest := dropWhole []
    rw [List.append_nil] at whole rest
    simp [whole, rest, started, digitsValue_eq, Numeral.exponentPart]
  | some digits =>
    rw [shape] at places
    have whole := takeWhole ('.' :: digits)
    have rest := dropWhole ('.' :: digits)
    have digitsTaken : digits.takeWhile Char.isDigit = digits := List.takeWhile_eq_self_iff.2 places
    have nothingLeft : digits.dropWhile Char.isDigit = [] := List.dropWhile_eq_nil_iff.2 places
    simp [whole, rest, started, digitsTaken, nothingLeft, digitsValue_eq, Numeral.exponentPart]

theorem read_numeral :
    Numeral.read w.numeral = .ok (.decimal false w.coefficient (0 - (w.places.length : ℤ))) := by
  have some : w.numeral.isEmpty = false := by
    have started := w.started
    unfold numeral
    split <;> simp [started]
  simp only [Numeral.read, some, sign_numeral, magnitude_numeral, Bool.false_eq_true, if_false]

/-- The digits are read as the nearest double. -/
theorem stores_toFloat (range : w.value ≠ 0 → Ordinary w.value) :
    Stores (Numeral.decimal false w.coefficient (0 - (w.places.length : ℤ))).toFloat (nearest w.value) := by
  rw [value_eq] at range ⊢
  unfold Numeral.toFloat
  rcases Nat.eq_zero_or_pos w.places.length with none | positive
  · rw [none] at range ⊢
    rw [pow_zero, div_one] at range ⊢
    exact stores_ofScientific_whole range
  · have below : (0 - (w.places.length : ℤ) < 0) = True := eq_true (by omega)
    have length : (0 - (w.places.length : ℤ)).natAbs = w.places.length := by omega
    simp only [below, length, Bool.false_eq_true, if_false, decide_true]
    exact stores_ofScientific_fraction positive.ne' range

/-- What a count is read as: two roundings, then the part behind the point
is cut off. -/
theorem readCount_eq (range : w.value ≠ 0 → Ordinary w.value)
    (product : nearest w.value * w.scale ≠ 0 → Ordinary (nearest w.value * w.scale))
    (small : nearest (nearest w.value * w.scale) < 2 ^ 64) :
    readCount w.text = .ok ⌊nearest (nearest w.value * w.scale)⌋₊ := by
  obtain ⟨scale, found, exact⟩ := w.splitScale_lowercase
  have stored := (w.stores_toFloat range).mul exact product
  simp only [readCount, lowercase_text, found, read_numeral, stored.toUInt64_eq small]

theorem one_le_scale : 1 ≤ w.scale := by
  unfold scale
  rcases w.suffix with _ | capital | capital <;> simp [Suffix.scale]

theorem scale_le : w.scale ≤ 1000000 := by
  unfold scale
  rcases w.suffix with _ | capital | capital <;> simp [Suffix.scale]

theorem value_nonneg : 0 ≤ w.value := by
  unfold value
  positivity

section Whole

variable {w} {n : ℕ}

/-- With a whole count, the product is off by no more than half a unit in
the 53rd place. -/
theorem abs_product_sub_le (exact : w.value * w.scale = n) : |nearest w.value * w.scale - n| ≤ (n : ℚ) / 2 ^ 53 := by
  have positive : (0 : ℚ) < w.scale := by exact_mod_cast w.one_le_scale
  calc |nearest w.value * w.scale - n|
    _ = |nearest w.value - w.value| * w.scale := by
      rw [← exact, ← sub_mul, abs_mul, abs_of_pos positive]
    _ ≤ w.value / 2 ^ 53 * w.scale := mul_le_mul_of_nonneg_right (abs_nearest_sub_le w.value_nonneg) positive.le
    _ = n / 2 ^ 53 := by rw [← exact]; ring

theorem ordinary_of_bounds {x : ℚ} (lower : 1 / 2 ^ 20 ≤ x) (upper : x ≤ 2 ^ 60) : Ordinary x where
  lower := by
    refine le_trans ?_ lower
    rw [one_div, ← zpow_natCast, ← zpow_neg]
    exact zpow_le_zpow_right₀ one_le_two (by norm_num)
  upper := by
    refine upper.trans_lt ?_
    rw [← zpow_natCast]
    exact zpow_lt_zpow_right₀ one_lt_two (by norm_num)

theorem readCount_whole (few : n < 2 ^ 53) (exact : w.value * w.scale = n) :
    readCount w.text = .ok ⌊nearest (nearest w.value * w.scale)⌋₊ := by
  have near := abs_le.1 (abs_product_sub_le exact)
  have few' : (n : ℚ) + 1 ≤ 2 ^ 53 := by exact_mod_cast few
  have scalePos : (1 : ℚ) ≤ w.scale := by exact_mod_cast w.one_le_scale
  have scaleMost : (w.scale : ℚ) ≤ 1000000 := by exact_mod_cast w.scale_le
  have nonneg := w.value_nonneg
  have below : nearest w.value * w.scale ≤ n + 1 := by linarith
  have some (nonzero : w.value ≠ 0) : (1 : ℚ) ≤ n := by
    have positive : (0 : ℚ) < n := exact ▸ mul_pos (nonneg.lt_of_ne nonzero.symm) (by linarith)
    exact_mod_cast positive
  refine w.readCount_eq (fun nonzero => ordinary_of_bounds ?_ ?_) (fun nonzero => ordinary_of_bounds ?_ ?_) ?_
  · have one := some nonzero
    rw [← exact] at one
    rw [div_le_iff₀ (by positivity)]
    nlinarith
  · nlinarith
  · have value : w.value ≠ 0 := by
      intro zero
      rw [zero, nearest_zero, zero_mul] at nonzero
      exact nonzero rfl
    have one := some value
    linarith
  · linarith
  · have natural : (0 : ℚ) ≤ n := Nat.cast_nonneg n
    have rounded := abs_le.1 (abs_nearest_sub_le (by linarith : 0 ≤ nearest w.value * w.scale))
    linarith

/-- A count that comes out as a whole number is read as that number or as
one next to it. Which one depends on where the digits are rounded to before
they are scaled: up to 2 ^ 52 one is lost if the product is short of the
middle between the number and the double below it, and behind that the
product is rounded to a whole number. So nothing is lost when the digits are
a double themselves, as they are without a suffix. -/
theorem readCount_written (few : n < 2 ^ 53) (exact : w.value * w.scale = n) :
    ∃ count, readCount w.text = .ok count ∧ count ≤ n + 1 ∧ n ≤ count + 1 ∧
      (n ≤ 2 ^ 52 → count = if n - nearest w.value * w.scale ≤ gapBelow n then n else n - 1) ∧
      (2 ^ 52 < n → count = roundEven (nearest w.value * w.scale)) ∧
      (nearest w.value = w.value → count = n) ∧ (w.suffix = none → count = n) := by
  have near := abs_product_sub_le exact
  have ⟨above, below⟩ := abs_le.1 near
  have nonneg : 0 ≤ nearest w.value * w.scale := by
    have natural : (0 : ℚ) ≤ n := Nat.cast_nonneg n
    linarith
  have unscaled (none : w.suffix = none) : nearest w.value = w.value := by
    have value : w.value = n := by simpa [scale, none] using exact
    rw [value, nearest_natCast few]
  refine ⟨_, readCount_whole few exact, ?_⟩
  rcases Nat.lt_or_ge (2 ^ 52) n with large | small
  · have large' : (2 : ℚ) ^ 52 + 1 ≤ n := by exact_mod_cast large
    have few' : (n : ℚ) + 1 ≤ 2 ^ 53 := by exact_mod_cast few
    have rounded := floor_nearest_of_large (by linarith : 2 ^ 52 ≤ nearest w.value * w.scale) (by linarith)
    have ⟨most, least⟩ := roundEven_close nonneg (near.trans (by linarith))
    have kept (same : nearest w.value = w.value) : ⌊nearest (nearest w.value * w.scale)⌋₊ = n := by
      rw [rounded, same, exact, roundEven_natCast]
    exact ⟨by omega, by omega, fun few => by omega, fun _ => rounded, kept, fun none => kept (unscaled none)⟩
  · have small' : (n : ℚ) ≤ 2 ^ 52 := by exact_mod_cast small
    have close : |nearest w.value * w.scale - n| ≤ 1 / 2 := near.trans (by linarith)
    have cut := floor_nearest_eq small nonneg close
    have kept (same : nearest w.value = w.value) : ⌊nearest (nearest w.value * w.scale)⌋₊ = n := by
      rw [cut, same, exact, sub_self, if_pos (gapBelow_pos n).le]
    refine ⟨?_, ?_, fun _ => cut, fun large => by omega, kept, fun none => kept (unscaled none)⟩
    all_goals
      rw [cut]
      split_ifs <;> omega

end Whole

/-- One thousand and one, written in thousands. -/
def thousandAndOne : WrittenCount where
  whole := ['1']
  fraction := some ['0', '0', '1']
  suffix := some (.thousand false)
  started := by decide
  digits := List.all_eq_true.1 (by decide)

/-- The double nearest to 1.001 is so far below that a thousand times as
much is rounded to less than 1001. -/
theorem readCount_thousandAndOne :
    1001 < 2 ^ 53 ∧ thousandAndOne.value * thousandAndOne.scale = (1001 : ℕ) ∧ thousandAndOne.text = "1.001k" ∧
      readCount "1.001k" = .ok 1000 ∧ gapBelow 1001 < 1001 - nearest thousandAndOne.value * thousandAndOne.scale := by
  have few : 1001 < 2 ^ 53 := by decide
  have exact : thousandAndOne.value * thousandAndOne.scale = (1001 : ℕ) := by
    have whole : Nat.ofDigitChars 10 thousandAndOne.whole 0 = 1 := by decide
    have places : Nat.ofDigitChars 10 thousandAndOne.places 0 = 1 := by decide
    have length : thousandAndOne.places.length = 3 := rfl
    have scale : thousandAndOne.scale = 1000 := rfl
    rw [value, whole, places, length, scale]
    norm_num
  have text : thousandAndOne.text = "1.001k" := by decide
  have lost : readCount "1.001k" = .ok 1000 := by decide +kernel
  obtain ⟨count, counted, _, _, rule, _⟩ := readCount_written few exact
  rw [text, lost] at counted
  obtain rfl := Except.ok.inj counted
  refine ⟨few, exact, text, lost, ?_⟩
  by_contra within
  have kept := rule (by decide)
  rw [if_pos (by exact_mod_cast not_lt.1 within)] at kept
  cases kept

end WrittenCount

end ContactGrid.Bench
