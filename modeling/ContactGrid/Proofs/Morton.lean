import ContactGrid.Proofs.BucketCode
import Mathlib.Data.Fintype.EquivFin
import Mathlib.Data.Fintype.Prod
import Mathlib.Data.Int.Bitwise
import Mathlib.Data.Int.ModEq
import Mathlib.Data.Set.Function

namespace ContactGrid

/-- A word has the bits of its integer in two's complement. -/
theorem testBit_word_eq (i : Int) {k : Nat} (within : k < 32) : (word i).testBit k = i.testBit k := by
  cases i with
  | ofNat n =>
    have same : word (Int.ofNat n) = n % 2 ^ 32 := rfl
    rw [same, Nat.testBit_mod_two_pow, decide_eq_true within, Bool.true_and]
    rfl
  | negSucc n =>
    have small : n % 2 ^ 32 < 2 ^ 32 := Nat.mod_lt _ (by decide)
    have same : word (Int.negSucc n) = 2 ^ 32 - (n % 2 ^ 32 + 1) := by
      have range : (limit32 : Int) = 4294967296 := rfl
      rw [word, range]
      omega
    rw [same, Nat.testBit_two_pow_sub_succ small, Nat.testBit_mod_two_pow, decide_eq_true within, Bool.true_and,
      Bool.true_and]
    rfl

theorem modEq_iff_word (i j : Int) : i ≡ j [ZMOD 1024] ↔ word i % 2 ^ 10 = word j % 2 ^ 10 := by
  have range : (limit32 : Int) = 4294967296 := rfl
  rw [Int.ModEq, word, word, range]
  omega

theorem mod_eq_of_testBit {v w : Nat} (same : ∀ i < 10, v.testBit i = w.testBit i) : v % 2 ^ 10 = w % 2 ^ 10 := by
  refine Nat.eq_of_testBit_eq fun i => ?_
  rw [Nat.testBit_mod_two_pow, Nat.testBit_mod_two_pow]
  by_cases ten : i < 10
  · rw [same i ten]
  · rw [decide_eq_false ten, Bool.false_and, Bool.false_and]

theorem spread_mod (v : Nat) : spread (v % 2 ^ 10) = spread v := by
  have low (n : Nat) : n &&& 0x3FF = n % 2 ^ 10 := Nat.and_two_pow_sub_one_eq_mod n 10
  rw [spread, spread, low, low, Nat.mod_mod]

namespace CellHash

/-- Morton codes repeat after 1024 cells along each axis, and not earlier. -/
theorem morton_eq_iff (c d : Cell) :
    CellHash.morton.bucket c = CellHash.morton.bucket d ↔
      c.x ≡ d.x [ZMOD 1024] ∧ c.y ≡ d.y [ZMOD 1024] ∧ c.z ≡ d.z [ZMOD 1024] := by
  rw [modEq_iff_word, modEq_iff_word, modEq_iff_word]
  constructor
  · intro same
    have bits : ∀ i < 10, (word c.x).testBit i = (word d.x).testBit i ∧
        (word c.y).testBit i = (word d.y).testBit i ∧ (word c.z).testBit i = (word d.z).testBit i := by
      intro i ten
      have atC := testBit_morton c ten
      rw [same] at atC
      obtain ⟨x, y, z⟩ := testBit_morton d ten
      exact ⟨atC.1.symm.trans x, atC.2.1.symm.trans y, atC.2.2.symm.trans z⟩
    exact ⟨mod_eq_of_testBit fun i ten => (bits i ten).1, mod_eq_of_testBit fun i ten => (bits i ten).2.1,
      mod_eq_of_testBit fun i ten => (bits i ten).2.2⟩
  · rintro ⟨x, y, z⟩
    rw [bucket, bucket, ← spread_mod (word c.x), ← spread_mod (word c.y), ← spread_mod (word c.z), x, y, z,
      spread_mod, spread_mod, spread_mod]

end CellHash

/-- The cells of a cube of 1024 cells along each axis. -/
def Cell.window (corner : Cell) : Set Cell :=
  {c | (corner.x ≤ c.x ∧ c.x < corner.x + 1024) ∧ (corner.y ≤ c.y ∧ c.y < corner.y + 1024) ∧
    (corner.z ≤ c.z ∧ c.z < corner.z + 1024)}

/-- The cell of a window at some steps from its corner. -/
def Cell.fromCorner (corner : Cell) (steps : Fin 1024 × Fin 1024 × Fin 1024) : Cell :=
  corner + ⟨steps.1, steps.2.1, steps.2.2⟩

theorem Cell.fromCorner_mem (corner : Cell) (steps : Fin 1024 × Fin 1024 × Fin 1024) :
    corner.fromCorner steps ∈ corner.window := by
  obtain ⟨i, j, k⟩ := steps
  show (corner.x ≤ corner.x + i ∧ corner.x + i < corner.x + 1024) ∧
    (corner.y ≤ corner.y + j ∧ corner.y + j < corner.y + 1024) ∧
    (corner.z ≤ corner.z + k ∧ corner.z + k < corner.z + 1024)
  omega

theorem Cell.fromCorner_injective (corner : Cell) : Function.Injective corner.fromCorner := by
  rintro ⟨i, j, k⟩ ⟨i', j', k'⟩ same
  have x : corner.x + i = corner.x + i' := congrArg Vec.x same
  have y : corner.y + j = corner.y + j' := congrArg Vec.y same
  have z : corner.z + k = corner.z + k' := congrArg Vec.z same
  simp only [Prod.mk.injEq, Fin.ext_iff]
  omega

namespace CellHash

theorem morton_injOn (corner : Cell) : Set.InjOn CellHash.morton.bucket corner.window := by
  rintro c ⟨cx, cy, cz⟩ d ⟨dx, dy, dz⟩ same
  obtain ⟨x, y, z⟩ := (morton_eq_iff c d).1 same
  simp only [Int.ModEq] at x y z
  ext
  all_goals omega

def mortonCode (corner : Cell) (steps : Fin 1024 × Fin 1024 × Fin 1024) : Fin (2 ^ 30) :=
  ⟨CellHash.morton.bucket (corner.fromCorner steps), bucket_lt _ _⟩

/-- A window has as many cells as there are buckets. -/
theorem mortonCode_surjective (corner : Cell) : Function.Surjective (mortonCode corner) := by
  have injective : Function.Injective (mortonCode corner) := by
    intro steps steps' same
    refine corner.fromCorner_injective ?_
    exact morton_injOn corner (corner.fromCorner_mem steps) (corner.fromCorner_mem steps') (congrArg Fin.val same)
  have card : Fintype.card (Fin 1024 × Fin 1024 × Fin 1024) = Fintype.card (Fin (2 ^ 30)) := by
    rw [Fintype.card_prod, Fintype.card_prod, Fintype.card_fin, Fintype.card_fin]
    decide
  exact ((Fintype.bijective_iff_injective_and_card _).2 ⟨injective, card⟩).2

theorem morton_surjOn (corner : Cell) : Set.SurjOn CellHash.morton.bucket corner.window (Set.Iio (2 ^ 30)) := by
  intro b small
  obtain ⟨steps, met⟩ := mortonCode_surjective corner ⟨b, small⟩
  exact ⟨corner.fromCorner steps, corner.fromCorner_mem steps, congrArg Fin.val met⟩

/-- The Morton code gives two cells one bucket just if their coordinates
agree modulo 1024. Every bucket belongs to some cell, and its bits are the
low bits of the coordinates in turn. Any cube of 1024 cells along each axis
has every bucket once. -/
theorem morton_exact :
    (∀ c d : Cell, CellHash.morton.bucket c = CellHash.morton.bucket d ↔
      c.x ≡ d.x [ZMOD 1024] ∧ c.y ≡ d.y [ZMOD 1024] ∧ c.z ≡ d.z [ZMOD 1024]) ∧
    (∀ b < 2 ^ 30, ∃ c : Cell, c.all inSignedWord = true ∧ CellHash.morton.bucket c = b) ∧
    (∀ (c : Cell), ∀ i < 10, (CellHash.morton.bucket c).testBit (3 * i + 2) = c.x.testBit i ∧
      (CellHash.morton.bucket c).testBit (3 * i + 1) = c.y.testBit i ∧
      (CellHash.morton.bucket c).testBit (3 * i) = c.z.testBit i) ∧
    ∀ corner : Cell, Set.BijOn CellHash.morton.bucket corner.window (Set.Iio (2 ^ 30)) := by
  refine ⟨morton_eq_iff, fun b small => ?_, fun c i ten => ?_, fun corner => ?_⟩
  · obtain ⟨c, ⟨x, y, z⟩, met⟩ := morton_surjOn ⟨0, 0, 0⟩ small
    refine ⟨c, ?_, met⟩
    dsimp only at x y z
    simp only [Vec.all, inSignedWord, Bool.and_eq_true, decide_eq_true_eq]
    omega
  · obtain ⟨x, y, z⟩ := testBit_morton c ten
    have short : i < 32 := by omega
    exact ⟨x.trans (testBit_word_eq c.x short), y.trans (testBit_word_eq c.y short),
      z.trans (testBit_word_eq c.z short)⟩
  · exact ⟨fun c _ => bucket_lt .morton c, morton_injOn corner, morton_surjOn corner⟩

/-- Cells on both sides of the origin: the period is the same below zero,
and the sign is no more than a bit. -/
theorem morton_below_zero :
    CellHash.morton.bucket ⟨-1, -1, -1⟩ = CellHash.morton.bucket ⟨1023, -1025, 2047⟩ ∧
      (7 < 2 ^ 30 ∧ ∃ c : Cell, c.all inSignedWord = true ∧ CellHash.morton.bucket c = 7) ∧
      (9 < 10 ∧ (CellHash.morton.bucket ⟨-1, 0, 0⟩).testBit 29 = true) ∧
      Set.BijOn CellHash.morton.bucket (Cell.window ⟨-512, -512, -512⟩) (Set.Iio (2 ^ 30)) := by
  obtain ⟨period, met, bits, window⟩ := morton_exact
  refine ⟨(period _ _).2 ⟨by decide, by decide, by decide⟩, ⟨by decide, met 7 (by decide)⟩, ⟨by decide, ?_⟩, window _⟩
  exact (bits ⟨-1, 0, 0⟩ 9 (by decide)).1

end CellHash

end ContactGrid
