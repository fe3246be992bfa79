import ContactGrid.Sphere
import Mathlib

-- The whole library is imported because no smaller part of it holds the laws
-- of packed numbers.

namespace ContactGrid

open Float.Model

section Unpacked

variable {spec : Format} {x y : UnpackedFloat}

theorem unpacked_add_comm (x y : UnpackedFloat) : UnpackedFloat.add spec x y = UnpackedFloat.add spec y x := by
  cases x <;> cases y
  case finite.finite s m e _ t n f _ =>
    simp only [UnpackedFloat.add]
    rw [Int.min_comm, Int.add_comm]
  case infinity.infinity s t => cases s <;> cases t <;> rfl
  case zero.zero s t => cases s <;> cases t <;> rfl
  all_goals rfl

theorem abs_round (s t : UnpackedFloat.Sign) (m : Nat) (e : Int) :
    (UnpackedFloat.round spec s m e).abs = (UnpackedFloat.round spec t m e).abs := by
  simp only [UnpackedFloat.round, UnpackedFloat.roundWithAccuracy]
  split
  · rfl
  · rfl

theorem abs_normalize_neg (m e : Int) (s : UnpackedFloat.Sign) :
    (UnpackedFloat.normalize spec (-m) e s).abs = (UnpackedFloat.normalize spec m e s).abs := by
  unfold UnpackedFloat.normalize
  rcases Int.lt_trichotomy m 0 with below | rfl | above
  · rw [Int.compare_eq_lt.2 below, Int.compare_eq_gt.2 (by omega : -m > 0)]
    exact abs_round _ _ _ _
  · rfl
  · rw [Int.compare_eq_gt.2 above, Int.compare_eq_lt.2 (by omega : -m < 0), Int.neg_neg]
    exact abs_round _ _ _ _

/-- Taken in the other order, a difference has the same magnitude, however
it is rounded. -/
theorem abs_sub_comm (x y : UnpackedFloat) : (UnpackedFloat.sub spec x y).abs = (UnpackedFloat.sub spec y x).abs := by
  cases x <;> cases y
  case finite.finite s m e _ t n f _ =>
    simp only [UnpackedFloat.sub]
    rw [Int.min_comm, ← Int.neg_sub]
    exact abs_normalize_neg _ _ _
  case infinity.infinity s t => cases s <;> cases t <;> rfl
  case zero.zero s t => cases s <;> cases t <;> rfl
  all_goals rfl

/-- A square does not depend on the sign. -/
theorem mul_self_eq_of_abs (same : x.abs = y.abs) : UnpackedFloat.mul spec x x = UnpackedFloat.mul spec y y := by
  have unsigned (z : UnpackedFloat) : UnpackedFloat.mul spec z z = UnpackedFloat.mul spec z.abs z.abs := by
    cases z with
    | notANumber => rfl
    | infinity s => cases s <;> rfl
    | zero s => cases s <;> rfl
    | finite s m e _ => cases s <;> rfl
  rw [unsigned x, unsigned y, same]

theorem abs_unpack {v w : BitVec spec.numBits}
    (mantissa : UnpackedFloat.unpackMantissa v = UnpackedFloat.unpackMantissa w)
    (exponent : UnpackedFloat.unpackExponent v = UnpackedFloat.unpackExponent w) :
    (UnpackedFloat.unpack spec v).abs = (UnpackedFloat.unpack spec w).abs := by
  simp only [UnpackedFloat.unpack, mantissa, exponent]
  split
  · split <;> rfl
  · split
    · split <;> rfl
    · rfl

/-- What comes back from packing has a magnitude that depends on no sign. -/
theorem abs_unpack_pack (same : x.abs = y.abs) :
    (UnpackedFloat.unpack spec (UnpackedFloat.pack spec x)).abs =
      (UnpackedFloat.unpack spec (UnpackedFloat.pack spec y)).abs := by
  have fields (z : UnpackedFloat) :
      UnpackedFloat.unpackMantissa (UnpackedFloat.pack spec z) =
          UnpackedFloat.unpackMantissa (UnpackedFloat.pack spec z.abs) ∧
        UnpackedFloat.unpackExponent (UnpackedFloat.pack spec z) =
          UnpackedFloat.unpackExponent (UnpackedFloat.pack spec z.abs) := by
    cases z with
    | notANumber => exact ⟨rfl, rfl⟩
    | infinity s => simp [UnpackedFloat.pack, UnpackedFloat.abs, UnpackedFloat.packedInfinity]
    | zero s => simp [UnpackedFloat.pack, UnpackedFloat.abs, UnpackedFloat.packedZero]
    | finite s m e _ =>
      simp only [UnpackedFloat.pack, UnpackedFloat.abs, UnpackedFloat.packedInfinity]
      split
      · simp
      · split <;> simp
  have unsigned (z : UnpackedFloat) : (UnpackedFloat.unpack spec (UnpackedFloat.pack spec z)).abs =
      (UnpackedFloat.unpack spec (UnpackedFloat.pack spec z.abs)).abs :=
    abs_unpack (fields z).1 (fields z).2
  rw [unsigned x, unsigned y, same]

end Unpacked

namespace Scalar

/-- Addition of machine numbers commutes. -/
theorem real32_add_comm (x y : Float32) : x + y = y + x :=
  congrArg (fun u => Float32.ofModel (Float32.Model.pack u)) (unpacked_add_comm x.toModel.unpack y.toModel.unpack)

/-- The square of a difference of machine numbers does not depend on which
number is taken from which. -/
theorem real32_sub_mul_sub (x y : Float32) : (x - y) * (x - y) = (y - x) * (y - x) := by
  have magnitude : (x - y).toModel.unpack.abs = (y - x).toModel.unpack.abs :=
    @abs_unpack_pack Format.binary32 _ _ (abs_sub_comm x.toModel.unpack y.toModel.unpack)
  exact congrArg (fun u => Float32.ofModel (Float32.Model.pack u)) (mul_self_eq_of_abs magnitude)

end Scalar

theorem Vec.real32_distanceSquared_comm (v w : Vec Float32) : v.distanceSquared w = w.distanceSquared v := by
  simp only [distanceSquared, dot, sub_x, sub_y, sub_z]
  rw [Scalar.real32_sub_mul_sub v.x, Scalar.real32_sub_mul_sub v.y, Scalar.real32_sub_mul_sub v.z]

/-- Which of two spheres comes first makes no difference to the overlap
test. -/
theorem Sphere.overlaps_comm (s t : Sphere Float32) : s.overlaps t = t.overlaps s := by
  unfold overlaps
  rw [Vec.real32_distanceSquared_comm, Scalar.real32_add_comm]

end ContactGrid
