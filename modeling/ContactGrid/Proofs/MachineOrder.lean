import ContactGrid.Bulk.Maximum
import ContactGrid.Proofs.MachineSymmetry

namespace ContactGrid

open Float.Model

/-- Where a number stands among all numbers: by its class, then by exponent
and significand, which count down below zero. Undefined numbers stand before
all others, and the two zeros stand together. -/
def unpackedRank : UnpackedFloat → WithBot (Int ×ₗ Int ×ₗ Int)
  | .notANumber => ⊥
  | .infinity .negative => ↑(toLex ((-2 : Int), toLex ((0 : Int), (0 : Int))))
  | .finite .negative m e _ => ↑(toLex ((-1 : Int), toLex (-e, -(m : Int))))
  | .zero _ => ↑(toLex ((0 : Int), toLex ((0 : Int), (0 : Int))))
  | .finite .positive m e _ => ↑(toLex ((1 : Int), toLex (e, (m : Int))))
  | .infinity .positive => ↑(toLex ((2 : Int), toLex ((0 : Int), (0 : Int))))

section Unpacked

variable {x y : UnpackedFloat}

theorem unpackedRank_eq_bot : unpackedRank x = ⊥ ↔ x.isNaN = true := by
  rcases x with s | _ | s | ⟨s, m, e, _⟩
  case notANumber => exact iff_of_true rfl rfl
  all_goals cases s <;> simp [unpackedRank, UnpackedFloat.isNaN]

theorem compare_then_isLE (e f : Int) (m n : Nat) :
    ((compare e f).then (compare m n)).isLE = true ↔ e < f ∨ e = f ∧ m ≤ n := by
  rcases Int.lt_trichotomy e f with below | rfl | above
  · simp [Int.compare_eq_lt.2 below, below]
  · simp [Nat.isLE_compare]
  · have : ¬e < f := by omega
    have : e ≠ f := by omega
    simp [Int.compare_eq_gt.2 above, *]

theorem compare_then_eq_lt (e f : Int) (m n : Nat) :
    (compare e f).then (compare m n) = .lt ↔ e < f ∨ e = f ∧ m < n := by
  rw [Ordering.then_eq_lt, Int.compare_eq_lt, Int.compare_eq_eq, Nat.compare_eq_lt]

theorem compare_then_eq_eq (e f : Int) (m n : Nat) :
    (compare e f).then (compare m n) = .eq ↔ e = f ∧ m = n := by
  rw [Ordering.then_eq_eq, Int.compare_eq_eq, Nat.compare_eq_eq]

theorem compare_then_swap (e f : Int) (m n : Nat) :
    ((compare e f).then (compare m n)).swap = (compare f e).then (compare n m) := by
  rw [Ordering.swap_then, ← Int.compare_swap, Ordering.swap_swap, Nat.compare_swap]

theorem unpacked_le_iff : x.le y = true ↔ unpackedRank x ≠ ⊥ ∧ unpackedRank x ≤ unpackedRank y := by
  rcases x with s | _ | s | ⟨s, m, e, _⟩ <;> rcases y with t | _ | t | ⟨t, n, f, _⟩ <;>
    (try cases s) <;> (try cases t) <;>
    simp only [UnpackedFloat.le, UnpackedFloat.compare, unpackedRank, Prod.Lex.toLex_le_toLex, ne_eq, not_true,
      not_false_eq_true, true_and, false_and, WithBot.coe_ne_bot, WithBot.coe_le_coe, le_bot_iff, reduceCtorEq,
      iff_true, iff_false, Int.reduceLT, Int.reduceNeg, Int.reduceEq, le_refl, or_false, false_or, Option.any_some,
      lt_self_iff_false, neg_lt_neg_iff, neg_le_neg_iff, neg_inj, Nat.cast_le]
  case finite.finite.negative.negative => rw [compare_then_swap, compare_then_isLE, eq_comm]
  case finite.finite.positive.positive => exact compare_then_isLE e f m n
  all_goals decide

theorem unpacked_lt_iff : x.lt y = true ↔ unpackedRank x ≠ ⊥ ∧ unpackedRank x < unpackedRank y := by
  rcases x with s | _ | s | ⟨s, m, e, _⟩ <;> rcases y with t | _ | t | ⟨t, n, f, _⟩ <;>
    (try cases s) <;> (try cases t) <;>
    simp only [UnpackedFloat.lt, UnpackedFloat.compare, unpackedRank, Prod.Lex.toLex_lt_toLex, ne_eq, not_true,
      not_false_eq_true, true_and, false_and, WithBot.coe_ne_bot, WithBot.coe_lt_coe, not_lt_bot, reduceCtorEq,
      iff_true, Int.reduceLT, Int.reduceNeg, Int.reduceEq, or_false, false_or, and_false, beq_iff_eq,
      Option.some.injEq, lt_self_iff_false, neg_lt_neg_iff, neg_inj, Nat.cast_lt]
  case finite.finite.negative.negative => rw [compare_then_swap, compare_then_eq_lt, eq_comm]
  case finite.finite.positive.positive => exact compare_then_eq_lt e f m n
  all_goals decide

theorem unpacked_beq_iff : x.beq y = true ↔ unpackedRank x ≠ ⊥ ∧ unpackedRank x = unpackedRank y := by
  rcases x with s | _ | s | ⟨s, m, e, _⟩ <;> rcases y with t | _ | t | ⟨t, n, f, _⟩ <;>
    (try cases s) <;> (try cases t) <;>
    simp only [UnpackedFloat.beq, UnpackedFloat.compare, unpackedRank, ne_eq, not_true, not_false_eq_true,
      true_and, false_and, WithBot.coe_ne_bot, WithBot.coe_inj, toLex_inj, Prod.mk.injEq, reduceCtorEq, iff_true,
      Int.reduceNeg, Int.reduceEq, beq_iff_eq, Option.some.injEq, neg_inj, Nat.cast_inj]
  case finite.finite.negative.negative => rw [compare_then_swap, compare_then_eq_eq, eq_comm, @eq_comm _ n]
  case finite.finite.positive.positive => exact compare_then_eq_eq e f m n
  all_goals decide

/-- Numbers without a minus sign, and zeros of both signs. -/
def Unsigned : UnpackedFloat → Prop
  | .infinity s => s = .positive
  | .finite s _ _ _ => s = .positive
  | _ => True

theorem unsigned_of_le (above : (UnpackedFloat.zero .positive).le x = true) : Unsigned x := by
  rcases x with s | _ | s | ⟨s, m, e, _⟩
  case infinity => cases s <;> first | rfl | cases above
  case finite => cases s <;> first | rfl | cases above
  all_goals trivial

theorem not_lt_of_unsigned (positive : Unsigned x) : x.lt (.zero .positive) = false := by
  rcases x with s | _ | s | ⟨s, m, e, _⟩
  case infinity => cases s <;> first | rfl | cases positive
  case finite => cases s <;> first | rfl | cases positive
  all_goals rfl

theorem unsigned_mul {spec : Format} (left : Unsigned x) (right : Unsigned y) :
    Unsigned (UnpackedFloat.mul spec x y) := by
  rcases x with s | _ | s | ⟨s, m, e, _⟩ <;> rcases y with t | _ | t | ⟨t, n, f, _⟩ <;>
    simp only [Unsigned] at left right <;> (try subst left) <;> (try subst right) <;>
    try exact trivial
  case finite.finite =>
    simp only [UnpackedFloat.mul, UnpackedFloat.roundWithAccuracy]
    split
    · trivial
    · rfl
  all_goals rfl

theorem unsigned_unpack_packComponents {spec : Format} (e : BitVec spec.exponentBits)
    (m : BitVec spec.mantissaBitsWithoutImplicit) :
    Unsigned (UnpackedFloat.unpack spec (UnpackedFloat.packComponents spec .positive e m)) := by
  have sign : UnpackedFloat.Sign.ofBitVec
      (UnpackedFloat.unpackSign (UnpackedFloat.packComponents spec .positive e m)) = .positive := by
    rw [UnpackedFloat.unpackSign_packComponents]
    rfl
  simp only [UnpackedFloat.unpack, sign]
  split
  · split
    · rfl
    · trivial
  · split
    · split
      · trivial
      · rfl
    · rfl

/-- Packing does not bring in a minus sign. -/
theorem unsigned_unpack_pack {spec : Format} (positive : Unsigned x) :
    Unsigned (UnpackedFloat.unpack spec (UnpackedFloat.pack spec x)) := by
  rcases x with s | _ | s | ⟨s, m, e, _⟩
  case infinity =>
    obtain rfl : s = .positive := positive
    exact unsigned_unpack_packComponents _ _
  case notANumber =>
    rw [UnpackedFloat.pack, UnpackedFloat.unpack_packedNaN]
    trivial
  case zero =>
    rw [UnpackedFloat.pack, UnpackedFloat.unpack_packedZero]
    trivial
  case finite =>
    obtain rfl : s = .positive := positive
    simp only [UnpackedFloat.pack, UnpackedFloat.packedInfinity]
    split
    · exact unsigned_unpack_packComponents _ _
    · split
      · exact unsigned_unpack_packComponents _ _
      · exact unsigned_unpack_packComponents _ _

end Unpacked

/-- The rank of a machine number, which decides all comparisons. -/
def real32Rank (x : Float32) : WithBot (Int ×ₗ Int ×ₗ Int) :=
  unpackedRank x.toModel.unpack

section Machine

variable {x y : Float32}

theorem real32_isNaN_iff : x.isNaN = true ↔ real32Rank x = ⊥ :=
  unpackedRank_eq_bot.symm

theorem real32_isNaN_eq_false_iff : x.isNaN = false ↔ real32Rank x ≠ ⊥ := by
  rw [ne_eq, ← real32_isNaN_iff, Bool.not_eq_true]

theorem real32_le_iff : Float32.le x y = true ↔ real32Rank x ≠ ⊥ ∧ real32Rank x ≤ real32Rank y :=
  decide_eq_true_iff.trans unpacked_le_iff

theorem real32_lt_iff : Float32.lt x y = true ↔ real32Rank x ≠ ⊥ ∧ real32Rank x < real32Rank y :=
  decide_eq_true_iff.trans unpacked_lt_iff

theorem real32_beq_iff : (x == y) = true ↔ real32Rank x ≠ ⊥ ∧ real32Rank x = real32Rank y :=
  unpacked_beq_iff

/-- A product of numbers that are not negative is not negative. -/
theorem real32_mul_not_neg (left : Float32.le 0 x = true) (right : Float32.le 0 y = true) :
    Float32.lt (x * y) 0 = false := by
  have unsignedX : Unsigned x.toModel.unpack := unsigned_of_le (decide_eq_true_iff.1 left)
  have unsignedY : Unsigned y.toModel.unpack := unsigned_of_le (decide_eq_true_iff.1 right)
  have product : Unsigned (x * y).toModel.unpack := unsigned_unpack_pack (unsigned_mul unsignedX unsignedY)
  exact decide_eq_false (Bool.not_eq_true _ ▸ not_lt_of_unsigned product)

/-- The larger of two numbers has the larger rank. An undefined one never
does. -/
theorem real32Rank_larger (x y : Float32) : real32Rank (real32Larger x y) = max (real32Rank x) (real32Rank y) := by
  unfold real32Larger
  by_cases undefined : x.isNaN = true
  · rw [if_pos undefined, real32_isNaN_iff.1 undefined, max_bot_left]
  · rw [if_neg undefined]
    have defined : real32Rank x ≠ ⊥ := fun none => undefined (real32_isNaN_iff.2 none)
    by_cases below : x < y
    · rw [if_pos below, max_eq_right (real32_lt_iff.1 below).2.le]
    · have above : ¬real32Rank x < real32Rank y := fun less => below (real32_lt_iff.2 ⟨defined, less⟩)
      rw [if_neg below, max_eq_left (not_lt.1 above)]

theorem real32Larger_eq_or (x y : Float32) : real32Larger x y = x ∨ real32Larger x y = y := by
  unfold real32Larger
  split
  · exact Or.inr rfl
  · split
    · exact Or.inr rfl
    · exact Or.inl rfl

theorem real32_isFinite_eq_false_iff : x.isFinite = false ↔ x.isNaN = true ∨ x.isInf = true := by
  have cases (u : UnpackedFloat) : u.isFinite = false ↔ u.isNaN = true ∨ u.isInf = true := by
    cases u <;> simp [UnpackedFloat.isFinite, UnpackedFloat.isNaN, UnpackedFloat.isInf]
  exact cases x.toModel.unpack

/-- The number is among the values, and none of them has a larger rank. -/
structure Tops (x : Float32) (values : List Float32) : Prop where
  mem : x ∈ values
  rank_le : ∀ r ∈ values, real32Rank r ≤ real32Rank x

namespace Tops

variable {values others : List Float32}

theorem single (x : Float32) : Tops x [x] :=
  ⟨List.mem_singleton_self x, List.forall_mem_singleton.2 le_rfl⟩

theorem congr (top : Tops x values) (same : ∀ r, r ∈ values ↔ r ∈ others) : Tops x others :=
  ⟨(same x).1 top.mem, fun r member => top.rank_le r ((same r).2 member)⟩

/-- The larger of two tops is on top of all values together. -/
theorem larger (left : Tops x values) (right : Tops y others) : Tops (real32Larger x y) (values ++ others) := by
  refine ⟨?_, fun r member => ?_⟩
  · rcases real32Larger_eq_or x y with chosen | chosen
    · rw [chosen]
      exact List.mem_append_left _ left.mem
    · rw [chosen]
      exact List.mem_append_right _ right.mem
  · rw [real32Rank_larger, le_max_iff]
    rcases List.mem_append.1 member with inLeft | inRight
    · exact Or.inl (left.rank_le r inLeft)
    · exact Or.inr (right.rank_le r inRight)

theorem foldl (top : Tops x others) (values : List Float32) :
    Tops (values.foldl real32Larger x) (others ++ values) := by
  induction values generalizing x others with
  | nil =>
    rw [List.append_nil]
    exact top
  | cons first values ih =>
    have later := ih (top.larger (single first))
    rwa [List.append_assoc] at later

end Tops

theorem tops_maximum (values : List Float32) : Tops (maximum values) (negativeInfinity :: values) :=
  (Tops.single negativeInfinity).foldl values

/-- Of some numbers that are not negative, the maximum is one, and none is
larger. -/
theorem maximum_spec {values : List Float32} (some : values ≠ []) (good : ∀ r ∈ values, Float32.le 0 r = true) :
    maximum values ∈ values ∧ ∀ r ∈ values, Float32.le r (maximum values) = true := by
  have top := tops_maximum values
  have below : ∀ r ∈ values, real32Rank r ≤ real32Rank (maximum values) := fun r member =>
    top.rank_le r (List.mem_cons_of_mem _ member)
  have defined : ∀ r ∈ values, real32Rank r ≠ ⊥ := fun r member none =>
    (real32_le_iff.1 (good r member)).1 (le_bot_iff.1 (none ▸ (real32_le_iff.1 (good r member)).2))
  refine ⟨?_, fun r member => real32_le_iff.2 ⟨defined r member, below r member⟩⟩
  rcases List.mem_cons.1 top.mem with bottom | inside
  · -- negative infinity is below every number that is not negative
    obtain ⟨r, member⟩ := List.exists_mem_of_ne_nil values some
    have atMost : Float32.le 0 negativeInfinity = true :=
      real32_le_iff.2 ⟨(real32_le_iff.1 (good r member)).1,
        (real32_le_iff.1 (good r member)).2.trans (bottom ▸ below r member)⟩
    exact absurd atMost (by decide +kernel)
  · exact inside

end Machine

end ContactGrid
