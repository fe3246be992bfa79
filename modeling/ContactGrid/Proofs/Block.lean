import ContactGrid.Entry.Block
import Mathlib.Data.List.Nodup

namespace ContactGrid

theorem parityBit_eq_toNat (i : Int) : parityBit i = (decide (i % 2 = 1)).toNat := by
  rcases Int.emod_two_eq i with even | odd
  · simp [parityBit, even]
  · simp [parityBit, odd]

theorem Cell.testBit_parity (c : Cell) :
    c.parity.testBit 2 = decide (c.x % 2 = 1) ∧ c.parity.testBit 1 = decide (c.y % 2 = 1) ∧
      c.parity.testBit 0 = decide (c.z % 2 = 1) := by
  unfold Cell.parity
  simp only [parityBit_eq_toNat]
  cases decide (c.x % 2 = 1) <;> cases decide (c.y % 2 = 1) <;> cases decide (c.z % 2 = 1) <;> decide

theorem eq_of_testBit {p q : Nat} (hp : p < 8) (hq : q < 8) (high : p.testBit 2 = q.testBit 2)
    (middle : p.testBit 1 = q.testBit 1) (low : p.testBit 0 = q.testBit 0) : p = q := by
  have small : ∀ p < 8, ∀ q < 8, p.testBit 2 = q.testBit 2 → p.testBit 1 = q.testBit 1 →
      p.testBit 0 = q.testBit 0 → p = q := by decide
  exact small p hp q hq high middle low

/-- A home cell and the seven cells around one of its corners. On each axis
the block has the home coordinate and the next one along the direction. -/
structure Block where
  home : Cell
  direction : Cell
  unit_x : direction.x = 1 ∨ direction.x = -1
  unit_y : direction.y = 1 ∨ direction.y = -1
  unit_z : direction.z = 1 ∨ direction.z = -1

namespace Block

instance : Membership Cell Block where
  mem B c := (c.x = B.home.x ∨ c.x = B.home.x + B.direction.x) ∧
    (c.y = B.home.y ∨ c.y = B.home.y + B.direction.y) ∧ (c.z = B.home.z ∨ c.z = B.home.z + B.direction.z)

/-- Of two neighboring coordinates, the odd one or the even one. -/
def axis (home step : Int) (odd : Bool) : Int :=
  if decide (home % 2 = 1) = odd then home else home + step

theorem axis_mem (home step : Int) (odd : Bool) : axis home step odd = home ∨ axis home step odd = home + step := by
  unfold axis
  split
  · exact Or.inl rfl
  · exact Or.inr rfl

theorem odd_next {step : Int} (unit : step = 1 ∨ step = -1) (home : Int) :
    decide ((home + step) % 2 = 1) = !decide (home % 2 = 1) := by
  rw [← decide_not, decide_eq_decide]
  omega

theorem axis_odd {home step : Int} (unit : step = 1 ∨ step = -1) (odd : Bool) :
    decide (axis home step odd % 2 = 1) = odd := by
  unfold axis
  split
  · assumption
  · rename_i other
    rw [odd_next unit]
    revert other
    cases odd <;> cases decide (home % 2 = 1) <;> decide

theorem axis_eq {home step i : Int} (unit : step = 1 ∨ step = -1) (member : i = home ∨ i = home + step) :
    axis home step (decide (i % 2 = 1)) = i := by
  unfold axis
  rcases member with same | next
  · rw [same, if_pos rfl]
  · rw [next, odd_next unit, if_neg (by simp)]

theorem eq_of_odd {home step i j : Int} (unit : step = 1 ∨ step = -1) (hi : i = home ∨ i = home + step)
    (hj : j = home ∨ j = home + step) (same : decide (i % 2 = 1) = decide (j % 2 = 1)) : i = j := by
  rw [← axis_eq unit hi, same, axis_eq unit hj]

def cell (B : Block) (q : Nat) : Cell :=
  ⟨axis B.home.x B.direction.x (q.testBit 2), axis B.home.y B.direction.y (q.testBit 1),
    axis B.home.z B.direction.z (q.testBit 0)⟩

theorem home_mem (B : Block) : B.home ∈ B :=
  ⟨Or.inl rfl, Or.inl rfl, Or.inl rfl⟩

theorem cell_mem (B : Block) (q : Nat) : B.cell q ∈ B :=
  ⟨axis_mem _ _ _, axis_mem _ _ _, axis_mem _ _ _⟩

theorem cell_parity {B : Block} {c : Cell} (member : c ∈ B) : B.cell c.parity = c := by
  obtain ⟨x, y, z⟩ := member
  have bits := c.testBit_parity
  unfold cell
  rw [bits.1, bits.2.1, bits.2.2, axis_eq B.unit_x x, axis_eq B.unit_y y, axis_eq B.unit_z z]

theorem parity_cell (B : Block) {q : Nat} (small : q < 8) : (B.cell q).parity = q := by
  have bits := (B.cell q).testBit_parity
  refine eq_of_testBit (B.cell q).parity_lt small (bits.1.trans ?_) (bits.2.1.trans ?_) (bits.2.2.trans ?_)
  · exact axis_odd B.unit_x _
  · exact axis_odd B.unit_y _
  · exact axis_odd B.unit_z _

/-- The eight cells of a block have eight different parities. -/
theorem eq_of_parity {B : Block} {c d : Cell} (hc : c ∈ B) (hd : d ∈ B) (same : c.parity = d.parity) : c = d := by
  rw [← cell_parity hc, same, cell_parity hd]

/-- The eight cells, the home cell first. -/
def cells (B : Block) : List Cell :=
  (⟨0, 0, 0⟩ :: Grid.blockSteps).map fun step => B.home + step * B.direction

theorem exists_step_iff {home step i : Int} : (∃ k : Int, (k = 0 ∨ k = 1) ∧ home + k * step = i) ↔
    i = home ∨ i = home + step := by
  constructor
  · rintro ⟨k, rfl | rfl, rfl⟩
    · exact Or.inl (by omega)
    · exact Or.inr (by omega)
  · rintro (rfl | rfl)
    · exact ⟨0, Or.inl rfl, by omega⟩
    · exact ⟨1, Or.inr rfl, by omega⟩

theorem mem_cells {B : Block} {c : Cell} : c ∈ B.cells ↔ c ∈ B := by
  rw [cells, List.mem_map]
  constructor
  · rintro ⟨step, listed, rfl⟩
    have bits : ∀ step ∈ (⟨0, 0, 0⟩ :: Grid.blockSteps : List Cell),
        (step.x = 0 ∨ step.x = 1) ∧ (step.y = 0 ∨ step.y = 1) ∧ (step.z = 0 ∨ step.z = 1) := by decide
    obtain ⟨x, y, z⟩ := bits step listed
    exact ⟨exists_step_iff.1 ⟨step.x, x, rfl⟩, exists_step_iff.1 ⟨step.y, y, rfl⟩, exists_step_iff.1 ⟨step.z, z, rfl⟩⟩
  · rintro ⟨x, y, z⟩
    obtain ⟨i, bitX, atX⟩ := exists_step_iff.2 x
    obtain ⟨j, bitY, atY⟩ := exists_step_iff.2 y
    obtain ⟨k, bitZ, atZ⟩ := exists_step_iff.2 z
    refine ⟨⟨i, j, k⟩, ?_, Vec.ext atX atY atZ⟩
    rcases bitX with rfl | rfl <;> rcases bitY with rfl | rfl <;> rcases bitZ with rfl | rfl <;> decide

theorem step_injective {step : Int} (unit : step = 1 ∨ step = -1) {home i j : Int}
    (same : home + i * step = home + j * step) : i = j := by
  rcases unit with rfl | rfl
  all_goals omega

theorem nodup_cells (B : Block) : B.cells.Nodup := by
  refine List.Nodup.map ?_ (by decide)
  intro step other same
  exact Vec.ext (step_injective B.unit_x (congrArg Vec.x same)) (step_injective B.unit_y (congrArg Vec.y same))
    (step_injective B.unit_z (congrArg Vec.z same))

end Block

namespace Entry

theorem testBit_directionBits (direction : Cell) :
    (directionBits direction).testBit 2 = decide (0 < direction.x) ∧
      (directionBits direction).testBit 1 = decide (0 < direction.y) ∧
      (directionBits direction).testBit 0 = decide (0 < direction.z) := by
  unfold directionBits
  split <;> split <;> split <;> simp only [*, decide_true, decide_false] <;> decide

theorem coordinateOf_eq_axis {tag : Tag} {bit : Nat} {home step i : Int} (unit : step = 1 ∨ step = -1)
    (member : i = home ∨ i = home + step) (atCell : tag.cell.testBit bit = decide (i % 2 = 1))
    (atHome : tag.home.testBit bit = decide (home % 2 = 1))
    (along : tag.direction.testBit bit = decide (0 < step)) (q : Nat) :
    coordinateOf tag q bit i = Block.axis home step (q.testBit bit) := by
  unfold coordinateOf
  rw [atCell, atHome, along]
  by_cases stays : q.testBit bit = decide (i % 2 = 1)
  · rw [if_pos stays, stays, Block.axis_eq unit member]
  · have other : q.testBit bit = !decide (i % 2 = 1) := by
      revert stays
      cases q.testBit bit <;> cases decide (i % 2 = 1) <;> decide
    have forward : (if decide (0 < step) = true then 1 else -1) = step := by
      rcases unit with rfl | rfl <;> decide
    rw [if_neg stays, other, forward, Block.axis]
    rcases member with rfl | rfl
    · simp
    · rw [Block.odd_next unit]
      simp

theorem tag_occupying (B : Block) (c : Cell) (object bucket : Nat) {mask : Nat} (small : mask < 256) :
    (occupying object bucket c B.home B.direction mask).tag.cell = c.parity ∧
      (occupying object bucket c B.home B.direction mask).tag.home = B.home.parity ∧
      (occupying object bucket c B.home B.direction mask).tag.mask = mask ∧
      (occupying object bucket c B.home B.direction mask).tag.direction = directionBits B.direction :=
  ⟨Tag.cell_pack c.parity_lt, Tag.home_pack c.parity_lt B.home.parity_lt,
    Tag.mask_pack c.parity_lt B.home.parity_lt small,
    Tag.direction_pack c.parity_lt B.home.parity_lt small (directionBits_lt B.direction)⟩

/-- A record finds every cell of the block of its object from its own cell. -/
theorem cellOf_occupying {B : Block} {c : Cell} {object bucket mask : Nat} (small : mask < 256) (member : c ∈ B)
    (q : Nat) :
    (occupying object bucket c B.home B.direction mask).cellOf q = B.cell q := by
  obtain ⟨x, y, z⟩ := member
  obtain ⟨atCell, atHome, _, along⟩ := tag_occupying B c object bucket small
  have cellBits := c.testBit_parity
  have homeBits := B.home.testBit_parity
  have directions := testBit_directionBits B.direction
  unfold cellOf Block.cell
  congr 1
  · exact coordinateOf_eq_axis B.unit_x x (atCell ▸ cellBits.1) (atHome ▸ homeBits.1) (along ▸ directions.1) q
  · exact coordinateOf_eq_axis B.unit_y y (atCell ▸ cellBits.2.1) (atHome ▸ homeBits.2.1) (along ▸ directions.2.1) q
  · exact coordinateOf_eq_axis B.unit_z z (atCell ▸ cellBits.2.2) (atHome ▸ homeBits.2.2) (along ▸ directions.2.2) q

end Entry

end ContactGrid
