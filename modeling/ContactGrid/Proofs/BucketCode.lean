import ContactGrid.Proofs.Block
import Mathlib.Algebra.Order.Ring.Nat

namespace ContactGrid

theorem testBit_word (i : Int) : (word i).testBit 0 = decide (i % 2 = 1) := by
  have range : (limit32 : Int) = 4294967296 := rfl
  rw [Nat.testBit_zero, decide_eq_decide]
  unfold word
  rw [range]
  omega

/-- The low ten bits of `v` stand in a word, each at a place of its own, and
no other bit of the word is set. -/
def BitsAt (place : Nat → Nat) (v n : Nat) : Prop :=
  ∀ k, n.testBit k = true ↔ ∃ i < 10, place i = k ∧ v.testBit i = true

/-- Of the two copies of each bit the mask keeps just the one at its next
place. -/
theorem BitsAt.overlay {place next : Nat → Nat} {v n shift mask : Nat} (stand : BitsAt place v n)
    (keeps : ∀ i < 10, mask.testBit (next i) = true ∧
      (next i = place i ∧ mask.testBit (place i + shift) = false ∨
        next i = place i + shift ∧ mask.testBit (place i) = false)) :
    BitsAt next v (overlay shift mask n) := by
  intro k
  rw [ContactGrid.overlay, Nat.testBit_and, Nat.testBit_or, Nat.testBit_shiftLeft, Bool.and_eq_true, Bool.or_eq_true,
    Bool.and_eq_true, decide_eq_true_eq, stand, stand]
  constructor
  · rintro ⟨⟨i, ten, here, bit⟩ | ⟨above, i, ten, here, bit⟩, masked⟩
    · obtain ⟨_, ⟨stays, _⟩ | ⟨_, dropped⟩⟩ := keeps i ten
      · exact ⟨i, ten, stays.trans here, bit⟩
      · rw [here, masked] at dropped
        cases dropped
    · have moved : place i + shift = k := by omega
      obtain ⟨_, ⟨_, dropped⟩ | ⟨moves, _⟩⟩ := keeps i ten
      · rw [moved, masked] at dropped
        cases dropped
      · exact ⟨i, ten, moves.trans moved, bit⟩
  · rintro ⟨i, ten, rfl, bit⟩
    obtain ⟨masked, ⟨stays, _⟩ | ⟨moves, _⟩⟩ := keeps i ten
    · exact ⟨Or.inl ⟨i, ten, stays.symm, bit⟩, masked⟩
    · exact ⟨Or.inr ⟨by omega, i, ten, by omega, bit⟩, masked⟩

theorem BitsAt.shiftLeft {place : Nat → Nat} {v n : Nat} (stand : BitsAt place v n) (shift : Nat) :
    BitsAt (fun i => place i + shift) v (n <<< shift) := by
  intro k
  rw [Nat.testBit_shiftLeft, Bool.and_eq_true, decide_eq_true_eq, stand]
  constructor
  · rintro ⟨above, i, ten, here, bit⟩
    exact ⟨i, ten, show place i + shift = k by omega, bit⟩
  · rintro ⟨i, ten, rfl, bit⟩
    exact ⟨Nat.le_add_left _ _, i, ten, (Nat.add_sub_cancel _ _).symm, bit⟩

/-- The place of a bit when groups of `width` bits stand side by side, every
group three times as far up as in the word they come from. -/
def groupedPlace (width i : Nat) : Nat :=
  i % width + 3 * width * (i / width)

/-- The groups get smaller with every step, from eight bits down to one. -/
theorem bitsAt_spread (v : Nat) : BitsAt (3 * ·) v (spread v) := by
  have low : BitsAt id v (v &&& 0x3FF) := by
    intro k
    have mask : v &&& 0x3FF = v % 2 ^ 10 := Nat.and_two_pow_sub_one_eq_mod v 10
    rw [mask, Nat.testBit_mod_two_pow, Bool.and_eq_true, decide_eq_true_eq]
    constructor
    · rintro ⟨ten, bit⟩
      exact ⟨k, ten, rfl, bit⟩
    · rintro ⟨i, ten, rfl, bit⟩
      exact ⟨ten, bit⟩
  have eights : BitsAt (groupedPlace 8) v (overlay 16 0x030000FF _) := low.overlay (by decide)
  have fours : BitsAt (groupedPlace 4) v (overlay 8 0x0300F00F _) := eights.overlay (by decide)
  have twos : BitsAt (groupedPlace 2) v (overlay 4 0x030C30C3 _) := fours.overlay (by decide)
  have ones : BitsAt (groupedPlace 1) v (spread v) := twos.overlay (by decide)
  have place : groupedPlace 1 = (3 * ·) := by
    funext i
    simp only [groupedPlace]
    omega
  exact place ▸ ones

namespace CellHash

/-- Bit by bit, the Morton code takes turns among the three coordinates. -/
theorem testBit_morton_iff (c : Cell) (k : Nat) :
    (CellHash.morton.bucket c).testBit k = true ↔
      (∃ i < 10, 3 * i + 2 = k ∧ (word c.x).testBit i = true) ∨
        (∃ i < 10, 3 * i + 1 = k ∧ (word c.y).testBit i = true) ∨
          ∃ i < 10, 3 * i = k ∧ (word c.z).testBit i = true := by
  have x := (bitsAt_spread (word c.x)).shiftLeft 2
  have y := (bitsAt_spread (word c.y)).shiftLeft 1
  have z := bitsAt_spread (word c.z)
  rw [bucket, Nat.testBit_or, Nat.testBit_or, Bool.or_eq_true, Bool.or_eq_true, x, y, z, or_assoc]

theorem testBit_morton (c : Cell) {i : Nat} (ten : i < 10) :
    (CellHash.morton.bucket c).testBit (3 * i + 2) = (word c.x).testBit i ∧
      (CellHash.morton.bucket c).testBit (3 * i + 1) = (word c.y).testBit i ∧
      (CellHash.morton.bucket c).testBit (3 * i) = (word c.z).testBit i := by
  -- Only one coordinate has bits at places of this remainder, and there
  -- just one bit.
  refine ⟨Bool.eq_iff_iff.2 ((testBit_morton_iff c _).trans ⟨?_, fun bit => Or.inl ⟨i, ten, rfl, bit⟩⟩),
    Bool.eq_iff_iff.2 ((testBit_morton_iff c _).trans ⟨?_, fun bit => Or.inr (Or.inl ⟨i, ten, rfl, bit⟩)⟩),
    Bool.eq_iff_iff.2 ((testBit_morton_iff c _).trans ⟨?_, fun bit => Or.inr (Or.inr ⟨i, ten, rfl, bit⟩)⟩)⟩
  · rintro (⟨j, _, place, bit⟩ | ⟨j, _, place, _⟩ | ⟨j, _, place, _⟩)
    · exact (show j = i by omega) ▸ bit
    · omega
    · omega
  · rintro (⟨j, _, place, _⟩ | ⟨j, _, place, bit⟩ | ⟨j, _, place, _⟩)
    · omega
    · exact (show j = i by omega) ▸ bit
    · omega
  · rintro (⟨j, _, place, _⟩ | ⟨j, _, place, _⟩ | ⟨j, _, place, bit⟩)
    · omega
    · omega
    · exact (show j = i by omega) ▸ bit

theorem bucket_lt (h : CellHash) (c : Cell) : h.bucket c < 2 ^ 30 := by
  cases h with
  | shift => exact Nat.mod_lt _ (by decide)
  | morton =>
    refine Nat.lt_pow_two_of_testBit _ fun k large => ?_
    rw [← Bool.not_eq_true, testBit_morton_iff]
    rintro (⟨i, ten, place, _⟩ | ⟨i, ten, place, _⟩ | ⟨i, ten, place, _⟩)
    all_goals omega

theorem testBit_shift (c : Cell) :
    (CellHash.shift.bucket c).testBit 0 = decide (c.z % 2 = 1) ∧
      (CellHash.shift.bucket c).testBit 10 = (decide (c.y % 2 = 1) ^^ (word c.z).testBit 10) ∧
      (CellHash.shift.bucket c).testBit 20 =
        ((decide (c.x % 2 = 1) ^^ (word c.y).testBit 10) ^^ (word c.z).testBit 20) := by
  have modulus : CellHash.shift.bucket c = ((word c.x <<< 20) ^^^ (word c.y <<< 10) ^^^ word c.z) % 2 ^ 30 := rfl
  rw [modulus]
  simp only [Nat.testBit_mod_two_pow, Nat.testBit_xor, Nat.testBit_shiftLeft, ← testBit_word]
  refine ⟨?_, ?_, ?_⟩
  all_goals simp

/-- Cells of one block never share a bucket, whatever other cells do. -/
theorem eq_of_bucket {h : CellHash} {B : Block} {c d : Cell} (hc : c ∈ B) (hd : d ∈ B)
    (same : h.bucket c = h.bucket d) : c = d := by
  cases h with
  | morton =>
    obtain ⟨x, y, z⟩ := testBit_morton c (i := 0) (by decide)
    obtain ⟨x', y', z'⟩ := testBit_morton d (i := 0) (by decide)
    rw [same, x', testBit_word, testBit_word] at x
    rw [same, y', testBit_word, testBit_word] at y
    rw [same, z', testBit_word, testBit_word] at z
    exact Vec.ext (Block.eq_of_odd B.unit_x hc.1 hd.1 x.symm) (Block.eq_of_odd B.unit_y hc.2.1 hd.2.1 y.symm)
      (Block.eq_of_odd B.unit_z hc.2.2 hd.2.2 z.symm)
  | shift =>
    have bits := testBit_shift c
    rw [same] at bits
    obtain ⟨low, middle, high⟩ := testBit_shift d
    rw [low, middle, high] at bits
    have z : c.z = d.z := Block.eq_of_odd B.unit_z hc.2.2 hd.2.2 bits.1.symm
    have y : c.y = d.y := by
      refine Block.eq_of_odd B.unit_y hc.2.1 hd.2.1 ?_
      rw [z] at bits
      exact (Bool.xor_left_inj.1 bits.2.1).symm
    have x : c.x = d.x := by
      refine Block.eq_of_odd B.unit_x hc.1 hd.1 ?_
      rw [z, y] at bits
      exact (Bool.xor_left_inj.1 (Bool.xor_left_inj.1 bits.2.2)).symm
    exact Vec.ext x y z

end CellHash

end ContactGrid
