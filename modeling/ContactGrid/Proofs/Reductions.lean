import ContactGrid.Proofs.MachineOrder

namespace ContactGrid

/-- An order in which numbers are brought together, two results at a time. -/
inductive Reduction where
  | number (x : Float32)
  | join (left right : Reduction)

namespace Reduction

/-- The numbers that are brought together. -/
def leaves : Reduction → List Float32
  | number x => [x]
  | join left right => left.leaves ++ right.leaves

/-- Of two results, the larger one goes on. -/
def result : Reduction → Float32
  | number x => x
  | join left right => real32Larger left.result right.result

/-- A reduction ends with the top of what it brings together. -/
theorem tops (t : Reduction) : Tops t.result t.leaves := by
  induction t with
  | number x => exact Tops.single x
  | join left right topLeft topRight => exact topLeft.larger topRight

end Reduction

/-- The numbers are the same, or both are zero and differ in sign. -/
def SameUpToZero (x y : Float32) : Prop :=
  x = y ∨ x = 0 ∧ y = -0 ∨ x = -0 ∧ y = 0

/-- The number is the greatest of those values that are defined, or negative
infinity if none is. -/
structure Greatest (x : Float32) (values : List Float32) : Prop where
  defined : x.isNaN = false
  above : ∀ r ∈ values, r.isNaN = false → Float32.le r x = true
  mem : (∃ r ∈ values, r.isNaN = false) → x ∈ values
  bottom : (∀ r ∈ values, r.isNaN = true) → x = negativeInfinity

variable {x y : Float32} {values : List Float32}

theorem sameUpToZero_of_rank (defined : x.isNaN = false) (same : real32Rank x = real32Rank y) : SameUpToZero x y :=
  (Float32.beq_iff_ne_nan_and_eq.1 (real32_beq_iff.2 ⟨real32_isNaN_eq_false_iff.1 defined, same⟩)).2.2

theorem rank_negativeInfinity_le (defined : x.isNaN = false) : real32Rank negativeInfinity ≤ real32Rank x := by
  have least (u : Float.Model.UnpackedFloat) (some : unpackedRank u ≠ ⊥) :
      unpackedRank (.infinity .negative) ≤ unpackedRank u := by
    rcases u with s | _ | s | ⟨s, m, e, _⟩
    case notANumber => exact absurd rfl some
    all_goals cases s <;> simp [unpackedRank, Prod.Lex.toLex_le_toLex]
  have bottom : real32Rank negativeInfinity = unpackedRank (.infinity .negative) := by decide +kernel
  rw [bottom]
  exact least _ (real32_isNaN_eq_false_iff.1 defined)

/-- No other number that is defined is as low as negative infinity. -/
theorem eq_negativeInfinity (defined : x.isNaN = false) (low : real32Rank x ≤ real32Rank negativeInfinity) :
    x = negativeInfinity := by
  have rank : real32Rank x = real32Rank negativeInfinity := low.antisymm (rank_negativeInfinity_le defined)
  rcases sameUpToZero_of_rank defined rank with same | ⟨_, zero⟩ | ⟨_, zero⟩
  · exact same
  · exact absurd zero (by decide +kernel)
  · exact absurd zero (by decide +kernel)

/-- With negative infinity put beside some values, their top is the greatest
one that is defined. -/
theorem Tops.greatest (top : Tops x (negativeInfinity :: values)) : Greatest x values := by
  have below : ∀ r ∈ values, real32Rank r ≤ real32Rank x := fun r member =>
    top.rank_le r (List.mem_cons_of_mem _ member)
  have defined : x.isNaN = false := by
    have bottomDefined : negativeInfinity.isNaN = false := by decide +kernel
    rw [real32_isNaN_eq_false_iff] at bottomDefined ⊢
    exact ne_bot_of_le_ne_bot bottomDefined (top.rank_le _ List.mem_cons_self)
  refine ⟨defined, fun r member definedR => ?_, ?_, fun undefined => ?_⟩
  · exact real32_le_iff.2 ⟨real32_isNaN_eq_false_iff.1 definedR, below r member⟩
  · rintro ⟨r, member, definedR⟩
    rcases List.mem_cons.1 top.mem with rfl | inside
    · -- a value that is not above negative infinity is negative infinity
      -- itself
      rw [← eq_negativeInfinity definedR (below r member)]
      exact member
    · exact inside
  · rcases List.mem_cons.1 top.mem with bottom | inside
    · exact bottom
    · exact absurd defined (Bool.not_eq_false _ ▸ undefined x inside)

/-- Some values have at most one greatest number, but for the sign of a
zero. -/
theorem Greatest.sameUpToZero (left : Greatest x values) (right : Greatest y values) : SameUpToZero x y := by
  by_cases some : ∃ r ∈ values, r.isNaN = false
  · have forth := real32_le_iff.1 (right.above x (left.mem some) left.defined)
    have back := real32_le_iff.1 (left.above y (right.mem some) right.defined)
    exact sameUpToZero_of_rank left.defined (forth.2.antisymm back.2)
  · have none : ∀ r ∈ values, r.isNaN = true := fun r member =>
      Bool.of_not_eq_false fun defined => some ⟨r, member, defined⟩
    exact Or.inl ((left.bottom none).trans (right.bottom none).symm)

theorem readMaximum_eq_ok (values : List Float32) (m : Meter) :
    ((readMaximum values).run.run m).1 = .ok (maximum values) := by
  cases values with
  | nil => rfl
  | cons first values => rfl

namespace Reduction

/-- The maximum does not depend on the order of reduction, nor on how often
negative infinity takes part. It is the greatest of the values that are
defined, as it is when they are taken one after another. Only the sign of a
zero may depend on the order: of two zeros the left one goes on, and sides
may be exchanged anywhere. -/
theorem any_order {t : Reduction} {values : List Float32} {extra : Nat}
    (leaves : t.leaves.Perm (values ++ List.replicate (extra + 1) negativeInfinity)) :
    Greatest t.result values ∧ Greatest (maximum values) values ∧ SameUpToZero t.result (maximum values) ∧
      ∀ m : Meter, ((readMaximum values).run.run m).1 = .ok (maximum values) := by
  have same (r : Float32) : r ∈ t.leaves ↔ r ∈ negativeInfinity :: values := by
    rw [leaves.mem_iff, List.mem_append, List.mem_replicate, List.mem_cons, or_comm,
      and_iff_right (Nat.succ_ne_zero extra)]
  have reduced : Greatest t.result values := (t.tops.congr same).greatest
  have oneByOne : Greatest (maximum values) values := (tops_maximum values).greatest
  exact ⟨reduced, oneByOne, reduced.sameUpToZero oneByOne, readMaximum_eq_ok values⟩

/-- Two zeros that meet last, after an undefined number and negative
infinity. -/
def zerosLast : Reduction :=
  join (number 0) (join (join (number negativeInfinity) (number Float32.nan))
    (join (number negativeInfinity) (number (-0))))

/-- Here the order decides which of the two zeros is the result. -/
theorem any_order_zeros :
    zerosLast.leaves.Perm ([Float32.nan, -0, negativeInfinity, 0] ++ List.replicate 1 negativeInfinity) ∧
      Greatest zerosLast.result [Float32.nan, -0, negativeInfinity, 0] ∧
      SameUpToZero zerosLast.result (maximum [Float32.nan, -0, negativeInfinity, 0]) ∧
      zerosLast.result ≠ maximum [Float32.nan, -0, negativeInfinity, 0] := by
  have leaves : zerosLast.leaves.Perm
      ([Float32.nan, -0, negativeInfinity, 0] ++ List.replicate (0 + 1) negativeInfinity) := by
    decide +kernel
  obtain ⟨greatest, _, same, _⟩ := any_order leaves
  exact ⟨leaves, greatest, same, by decide +kernel⟩

end Reduction

end ContactGrid
