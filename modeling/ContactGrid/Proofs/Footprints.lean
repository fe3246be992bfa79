import ContactGrid.Proofs.Enumerating

namespace ContactGrid

/-- An object as its records show it: the block of a machine cell, and some
cells of the block. -/
structure Footprint where
  block : Block
  bounded : block.Bounded
  cells : List Cell
  inside : ∀ c ∈ cells, c ∈ block

namespace Footprint

/-- The record of the object in one of its cells. -/
def entry (A : Footprint) (object bucket : Nat) (c : Cell) : Entry :=
  .occupying object bucket c A.block.home A.block.direction (Grid.parityMask A.cells)

variable {A B : Footprint} {c : Cell}

theorem checkedCellOf_entry (recorded : c ∈ A.cells) (object bucket q : Nat) :
    (A.entry object bucket c).checkedCellOf q = .ok ((A.entry object bucket c).cellOf q) :=
  Entry.checkedCellOf_occupying A.bounded (Grid.parityMask_lt A.cells) (A.inside c recorded) q

/-- In a common cell the question of ownership has an answer, and it depends
on no more than the cells. -/
theorem checkedOwnedElsewhere_entry (inA : c ∈ A.cells) (inB : c ∈ B.cells) (i j a b : Nat) :
    ∃ elsewhere : Bool, (A.entry i a c).checkedOwnedElsewhere (B.entry j b c) = .ok elsewhere ∧
      (elsewhere = true ↔ ∃ d, d ∈ A.cells ∧ d ∈ B.cells ∧ d.parity < c.parity) :=
  ⟨_, Entry.checkedOwnedElsewhere_of_cells rfl (checkedCellOf_entry inA i a) (checkedCellOf_entry inB j b),
    Entry.ownedElsewhere_iff A.inside B.inside inA inB⟩

/-- Whatever cells two objects occupy, a pair of them is passed over in a
common cell just if they have another common cell of lower parity, in
whichever order the records are taken. So one of their common cells owns the
pair, the one of lowest parity, and no other does. -/
theorem one_owner (A B : Footprint) (i j : Nat) (a b : Cell → Nat) :
    (∀ c, c ∈ A.cells → c ∈ B.cells → ∃ elsewhere : Bool,
      (A.entry i (a c) c).checkedOwnedElsewhere (B.entry j (b c) c) = .ok elsewhere ∧
      (B.entry j (b c) c).checkedOwnedElsewhere (A.entry i (a c) c) = .ok elsewhere ∧
      (elsewhere = true ↔ ∃ d, d ≠ c ∧ d ∈ A.cells ∧ d ∈ B.cells ∧ d.parity < c.parity)) ∧
    ((∃ c, c ∈ A.cells ∧ c ∈ B.cells) → ∃ owner, (owner ∈ A.cells ∧ owner ∈ B.cells) ∧
      (∀ c, c ∈ A.cells → c ∈ B.cells → c ≠ owner → owner.parity < c.parity) ∧
      ∀ c, c ∈ A.cells → c ∈ B.cells →
        ((A.entry i (a c) c).checkedOwnedElsewhere (B.entry j (b c) c) = .ok false ↔ c = owner)) := by
  refine ⟨fun c inA inB => ?_, fun shared => ?_⟩
  · obtain ⟨elsewhere, found, lower⟩ := checkedOwnedElsewhere_entry inA inB i j (a c) (b c)
    obtain ⟨elsewhere', found', lower'⟩ := checkedOwnedElsewhere_entry inB inA j i (b c) (a c)
    have same : elsewhere' = elsewhere := by
      rw [Bool.eq_iff_iff, lower, lower']
      exact exists_congr fun d => and_left_comm
    refine ⟨elsewhere, found, same ▸ found', lower.trans (exists_congr fun d => ?_)⟩
    constructor
    · rintro ⟨dA, dB, below⟩
      exact ⟨fun equal => Nat.lt_irrefl _ (equal ▸ below), dA, dB, below⟩
    · rintro ⟨_, dA, dB, below⟩
      exact ⟨dA, dB, below⟩
  · obtain ⟨owner, ⟨⟨inA, inB⟩, lowest⟩, unique⟩ := Block.existsUnique_lowest A.inside shared
    refine ⟨owner, ⟨inA, inB⟩, fun c cA cB differ => ?_, fun c cA cB => ?_⟩
    · have above : ¬c.parity < owner.parity := fun below => lowest ⟨c, cA, cB, below⟩
      have apart : c.parity ≠ owner.parity := fun same =>
        differ (Block.eq_of_parity (A.inside c cA) (A.inside owner inA) same)
      omega
    · obtain ⟨elsewhere, found, lower⟩ := checkedOwnedElsewhere_entry cA cB i j (a c) (b c)
      rw [found, Except.ok.injEq, ← Bool.not_eq_true, lower]
      constructor
      · exact fun none => unique c ⟨⟨cA, cB⟩, none⟩
      · rintro rfl
        exact lowest

/-- An object that occupies its whole block. -/
def whole (B : Block) (bounded : B.Bounded) : Footprint where
  block := B
  bounded := bounded
  cells := B.cells
  inside _ := Block.mem_cells.1

/-- Two blocks that have the cells (2, 3, 7) and (3, 3, 7) in common, the
first of them home to neither. -/
def crossing : Footprint × Footprint :=
  (whole ⟨⟨2, 4, 7⟩, ⟨1, -1, -1⟩, by decide, by decide, by decide⟩ (by decide),
    whole ⟨⟨3, 3, 7⟩, ⟨-1, -1, 1⟩, by decide, by decide, by decide⟩ (by decide))

/-- The cell of lower parity owns the pair, and the other one leaves it
alone. -/
theorem one_owner_crossing :
    (crossing.1.entry 0 0 ⟨3, 3, 7⟩).checkedOwnedElsewhere (crossing.2.entry 1 0 ⟨3, 3, 7⟩) = .ok true ∧
      (∃ c, c ∈ crossing.1.cells ∧ c ∈ crossing.2.cells) ∧
      (crossing.1.entry 0 0 ⟨2, 3, 7⟩).checkedOwnedElsewhere (crossing.2.entry 1 0 ⟨2, 3, 7⟩) = .ok false := by
  obtain ⟨answers, owned⟩ := one_owner crossing.1 crossing.2 0 1 (fun _ => 0) (fun _ => 0)
  have shared : ∃ c, c ∈ crossing.1.cells ∧ c ∈ crossing.2.cells := ⟨⟨2, 3, 7⟩, by decide, by decide⟩
  obtain ⟨owner, ⟨inFirst, inSecond⟩, lowest, alone⟩ := owned shared
  have low : owner = ⟨2, 3, 7⟩ := by
    by_contra other
    have below := lowest ⟨2, 3, 7⟩ (by decide) (by decide) (Ne.symm other)
    have least : ∀ c ∈ crossing.1.cells, c ∈ crossing.2.cells → 3 ≤ c.parity := by decide
    exact absurd below (Nat.not_lt.2 (least owner inFirst inSecond))
  obtain ⟨elsewhere, found, _, lower⟩ := answers ⟨3, 3, 7⟩ (by decide) (by decide)
  have passed : elsewhere = true := lower.2 ⟨⟨2, 3, 7⟩, by decide, by decide, by decide, by decide⟩
  exact ⟨passed ▸ found, shared, (alone ⟨2, 3, 7⟩ (by decide) (by decide)).2 low.symm⟩

end Footprint

/-- The cells of a block have the eight parities, one each. -/
theorem Block.bijOn_cell (B : Block) : Set.BijOn B.cell {q | q < 8} {c | c ∈ B} := by
  refine ⟨fun q _ => B.cell_mem q, fun p hp q hq same => ?_, fun c member => ?_⟩
  · rw [← B.parity_cell hp, same, B.parity_cell hq]
  · exact ⟨c.parity, c.parity_lt, cell_parity member⟩

namespace Entry

variable {B : Block} {c : Cell} {mask : Nat}

/-- The fields of a record stay within their bits just if the mask has no
more bits than there are parities. -/
theorem fits_occupying (B : Block) (c : Cell) (mask : Nat) :
    Tag.fits c.parity B.home.parity mask (directionBits B.direction) = true ↔ mask < 256 := by
  simp [Tag.fits, c.parity_lt, B.home.parity_lt, directionBits_lt]

/-- From its own cell and tag a record of a machine block finds each cell of
the block under the parity of that cell, and no coordinate on the way leaves
the signed words. So the parities name the eight cells one to one, and the
names are the same to every record of the block, whatever its mask. A mask
has one bit for each parity; no other could be packed. -/
theorem occupying_names_block (bounded : B.Bounded) (inside : c ∈ B) (object bucket mask : Nat) :
    Grid.adjacent c B.home = true ∧
      (Tag.fits c.parity B.home.parity mask (directionBits B.direction) = true ↔ mask < 256) ∧
      (mask < 256 →
        (∀ d ∈ B, (occupying object bucket c B.home B.direction mask).checkedCellOf d.parity = .ok d) ∧
        Set.BijOn (occupying object bucket c B.home B.direction mask).cellOf {q | q < 8} {d | d ∈ B} ∧
        ∀ d ∈ B, ∀ object' bucket' mask', mask' < 256 → ∀ q,
          (occupying object' bucket' d B.home B.direction mask').cellOf q =
            (occupying object bucket c B.home B.direction mask).cellOf q) := by
  refine ⟨Block.adjacent_home inside, fits_occupying B c mask, fun small => ⟨fun d member => ?_, ?_, ?_⟩⟩
  · rw [checkedCellOf_occupying bounded small inside, cellOf_occupying small inside, Block.cell_parity member]
  · exact B.bijOn_cell.congr fun q _ => (cellOf_occupying small inside q).symm
  · intro d member object' bucket' mask' small' q
    rw [cellOf_occupying small' member, cellOf_occupying small inside]

/-- A block at the end of the machine cells, which goes beyond them on two
axes. -/
def farBlock : Block :=
  ⟨⟨2147483646, -2147483646, -8⟩, ⟨1, -1, -1⟩, by decide, by decide, by decide⟩

/-- The cell of the far block that lies across from the home cell. -/
def farCorner : Cell := ⟨2147483647, -2147483647, -9⟩

/-- At the end of the machine cells, the home cell is found from the far
corner, and the corner from there. -/
theorem occupying_names_farBlock :
    farBlock.Bounded ∧ farCorner ∈ farBlock ∧
      (occupying 0 0 farCorner farBlock.home farBlock.direction 255).checkedCellOf farBlock.home.parity =
        .ok farBlock.home ∧
      (occupying 0 0 farBlock.home farBlock.home farBlock.direction 255).checkedCellOf farCorner.parity =
        .ok farCorner := by
  have bounded : farBlock.Bounded := by decide
  have corner : farCorner ∈ farBlock := ⟨by decide, by decide, by decide⟩
  obtain ⟨_, _, fromCorner⟩ := occupying_names_block bounded corner 0 0 255
  obtain ⟨_, _, fromHome⟩ := occupying_names_block bounded farBlock.home_mem 0 0 255
  exact ⟨bounded, corner, (fromCorner (by decide)).1 _ farBlock.home_mem, (fromHome (by decide)).1 _ corner⟩

end Entry

end ContactGrid
