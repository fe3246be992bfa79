import ContactGrid.Proofs.Block
import Mathlib.Order.WellFounded

namespace ContactGrid

namespace Grid

theorem testBit_foldl_parity (cells : List Cell) (mask q : Nat) :
    (cells.foldl (fun mask c => mask ||| 1 <<< c.parity) mask).testBit q = true ↔
      mask.testBit q = true ∨ ∃ c ∈ cells, c.parity = q := by
  induction cells generalizing mask with
  | nil => simp
  | cons c cells ih =>
    rw [List.foldl_cons, ih, Nat.testBit_or, Nat.one_shiftLeft, Nat.testBit_two_pow, Bool.or_eq_true,
      decide_eq_true_eq, or_assoc, List.exists_mem_cons_iff]

/-- The mask of some cells has just the bits of their parities. -/
theorem testBit_parityMask (cells : List Cell) (q : Nat) :
    (parityMask cells).testBit q = true ↔ ∃ c ∈ cells, c.parity = q := by
  rw [parityMask, testBit_foldl_parity]
  simp

theorem parityMask_lt (cells : List Cell) : parityMask cells < 256 := by
  refine Nat.lt_pow_two_of_testBit (n := 8) _ fun q large => ?_
  rw [← Bool.not_eq_true, testBit_parityMask]
  rintro ⟨c, _, same⟩
  have := c.parity_lt
  omega

variable {α : Type} [Scalar α]

theorem unit_side (b : Bool) : (if b = true then 1 else -1 : Int) = 1 ∨ (if b = true then 1 else -1 : Int) = -1 := by
  cases b
  · exact Or.inr rfl
  · exact Or.inl rfl

/-- The block of a sphere. -/
def block (g : Grid α) (s : Sphere α) : Block where
  home := g.cellAt s.center
  direction := g.direction s
  unit_x := unit_side _
  unit_y := unit_side _
  unit_z := unit_side _

theorem cells_block (g : Grid α) (s : Sphere α) : (g.block s).cells = g.cellAt s.center :: g.neighbors s := by
  rw [Block.cells, List.map_cons]
  congr 1
  ext <;> simp [block]

theorem mem_block {g : Grid α} {s : Sphere α} {c : Cell} :
    c ∈ g.block s ↔ c ∈ g.cellAt s.center :: g.neighbors s := by
  rw [← cells_block, Block.mem_cells]

theorem recordedCells_sublist (g : Grid α) (s : Sphere α) :
    (g.recordedCells s).Sublist (g.cellAt s.center :: g.neighbors s) :=
  List.filter_sublist.cons_cons _

theorem recordedCells_mem {g : Grid α} {s : Sphere α} {c : Cell} (member : c ∈ g.recordedCells s) :
    c ∈ g.block s :=
  mem_block.2 ((recordedCells_sublist g s).subset member)

theorem recordedCells_nodup (g : Grid α) (s : Sphere α) : (g.recordedCells s).Nodup := by
  have all := (g.block s).nodup_cells
  rw [cells_block] at all
  exact all.sublist (recordedCells_sublist g s)

theorem length_recordedCells (g : Grid α) (s : Sphere α) : (g.recordedCells s).length ≤ 8 :=
  (recordedCells_sublist g s).length_le

end Grid

namespace Entry

variable {A B : Block} {cs ds : List Cell} {c : Cell} {i j a b : Nat}

/-- A pair seen in a cell is owned elsewhere exactly if both objects are
recorded in a cell of lower parity. -/
theorem ownedElsewhere_iff (inA : ∀ d ∈ cs, d ∈ A) (inB : ∀ d ∈ ds, d ∈ B) (hc : c ∈ cs) (hd : c ∈ ds) :
    (occupying i a c A.home A.direction (Grid.parityMask cs)).ownedElsewhere
        (occupying j b c B.home B.direction (Grid.parityMask ds)) = true ↔
      ∃ d, d ∈ cs ∧ d ∈ ds ∧ d.parity < c.parity := by
  obtain ⟨atCell, _, maskA, _⟩ := tag_occupying A c i a (Grid.parityMask_lt cs)
  obtain ⟨_, _, maskB, _⟩ := tag_occupying B c j b (Grid.parityMask_lt ds)
  simp only [ownedElsewhere, sharedBelow, List.any_eq_true, List.mem_filter, List.mem_range, atCell, maskA, maskB,
    Bool.and_eq_true, Grid.testBit_parityMask, decide_eq_true_eq,
    cellOf_occupying (Grid.parityMask_lt cs) (inA c hc), cellOf_occupying (Grid.parityMask_lt ds) (inB c hd)]
  constructor
  · rintro ⟨q, ⟨below, ⟨d, hd, rfl⟩, e, he, same⟩, meet⟩
    have : d = e := by
      rw [← Block.cell_parity (inA d hd), meet, ← same, Block.cell_parity (inB e he)]
    exact ⟨d, hd, this ▸ he, below⟩
  · rintro ⟨d, inC, inD, below⟩
    refine ⟨d.parity, ⟨below, ⟨d, inC, rfl⟩, d, inD, rfl⟩, ?_⟩
    rw [Block.cell_parity (inA d inC), Block.cell_parity (inB d inD)]

end Entry

/-- Of the cells that two objects share, just one has no shared cell of
lower parity. -/
theorem Block.existsUnique_lowest {B : Block} {cs ds : List Cell} (inB : ∀ d ∈ cs, d ∈ B)
    (shared : ∃ c, c ∈ cs ∧ c ∈ ds) :
    ∃! c, (c ∈ cs ∧ c ∈ ds) ∧ ¬∃ d, d ∈ cs ∧ d ∈ ds ∧ d.parity < c.parity := by
  obtain ⟨c, hc, hd⟩ := shared
  obtain ⟨p, ⟨c, rfl, hc, hd⟩, least⟩ := WellFounded.has_min Nat.lt_wfRel.wf
    {p | ∃ c : Cell, c.parity = p ∧ c ∈ cs ∧ c ∈ ds} ⟨c.parity, c, rfl, hc, hd⟩
  refine ⟨c, ⟨⟨hc, hd⟩, fun ⟨d, inC, inD, below⟩ => least d.parity ⟨d, rfl, inC, inD⟩ below⟩, ?_⟩
  rintro e ⟨⟨inC, inD⟩, lowest⟩
  have above : ¬e.parity < c.parity := least e.parity ⟨e, rfl, inC, inD⟩
  have under : ¬c.parity < e.parity := fun below => lowest ⟨c, hc, hd, below⟩
  exact Block.eq_of_parity (inB e inC) (inB c hc) (by omega)

end ContactGrid
