import ContactGrid.Proofs.Slots

namespace ContactGrid

namespace Grid

/-- The records of one object, as they stand in its slots. The home cell
comes first, then those cells of the block that the enlarged sphere touches,
in a fixed order. -/
structure Layout (g : Grid Float32) (s : Sphere Float32) (object : Nat) (recorded : List Entry) : Prop where
  cells : recorded.map (·.cell) = g.cellAt s.center ::
    (([⟨1, 0, 0⟩, ⟨0, 1, 0⟩, ⟨0, 0, 1⟩, ⟨0, 1, 1⟩, ⟨1, 0, 1⟩, ⟨1, 1, 0⟩, ⟨1, 1, 1⟩] : List Cell).map fun step =>
      g.cellAt s.center + step * g.direction s).filter fun c =>
        (⟨s.center, s.radius * 1.5⟩ : Sphere Float32).touches (g.box c)
  home : ∀ i e, recorded[i]? = some e → (e.isHome = true ↔ i = 0)
  used : ∀ e ∈ recorded, e.isSentinel = false
  distinct : recorded.Pairwise fun e f => e.cell ≠ f.cell ∧ e.tag.cell ≠ f.tag.cell
  signed : ∀ c ∈ g.cellAt s.center :: g.neighbors s, c.all inSignedWord = true
  object : ∀ e ∈ recorded, e.object = object
  bucket : ∀ e ∈ recorded, e.bucket = g.bucket e.cell ∧ e.bucket < 2 ^ 30
  parities : ∀ e ∈ recorded, e.tag.cell = e.cell.parity ∧ e.tag.home = (g.cellAt s.center).parity
  /-- The block extends upward along the axes on which the center lies above
  the middle of the home cell. -/
  direction : ∀ e ∈ recorded,
    e.tag.direction.testBit 2 = Scalar.below (g.center (g.cellAt s.center)).x s.center.x ∧
      e.tag.direction.testBit 1 = Scalar.below (g.center (g.cellAt s.center)).y s.center.y ∧
      e.tag.direction.testBit 0 = Scalar.below (g.center (g.cellAt s.center)).z s.center.z
  mask : ∃ mask, (∀ e ∈ recorded, e.tag.mask = mask) ∧ ∀ q, mask.testBit q = true ↔ ∃ e ∈ recorded, e.tag.cell = q

section Entries

variable {α : Type} [Scalar α] {g : Grid α} {s : Sphere α} {object : Nat} {e : Entry}

theorem tag_of_mem_entries (member : e ∈ g.entries s object) :
    e.tag.cell = e.cell.parity ∧ e.tag.home = (g.cellAt s.center).parity ∧
      e.tag.mask = parityMask (g.recordedCells s) ∧ e.tag.direction = Entry.directionBits (g.direction s) := by
  obtain ⟨c, _, rfl⟩ := mem_entries.1 member
  exact Entry.tag_occupying (g.block s) c object (g.bucket c) (parityMask_lt _)

theorem map_cell_entries (g : Grid α) (s : Sphere α) (object : Nat) :
    (g.entries s object).map (·.cell) = g.recordedCells s := by
  rw [entries, List.map_map]
  exact List.map_id _

/-- Only the home cell has the parity of the home cell. -/
theorem isHome_iff (member : e ∈ g.entries s object) : e.isHome = true ↔ e.cell = g.cellAt s.center := by
  obtain ⟨cell, home, _⟩ := tag_of_mem_entries member
  have inside : e.cell ∈ g.block s := recordedCells_mem (cell_of_mem_entries member)
  rw [Entry.isHome, decide_eq_true_eq, cell, home]
  constructor
  · exact Block.eq_of_parity inside (g.block s).home_mem
  · exact congrArg Cell.parity

theorem isHome_iff_first {i : Nat} (found : (g.entries s object)[i]? = some e) : e.isHome = true ↔ i = 0 := by
  have atCell : (g.recordedCells s)[i]? = some e.cell := by
    rw [← map_cell_entries g s object, List.getElem?_map, found]
    rfl
  obtain ⟨fresh, _⟩ := List.nodup_cons.1 (recordedCells_nodup g s)
  rw [isHome_iff (List.mem_of_getElem? found)]
  cases i with
  | zero => exact ⟨fun _ => rfl, fun _ => (Option.some.inj atCell).symm⟩
  | succ i =>
    rw [recordedCells, List.getElem?_cons_succ] at atCell
    refine ⟨fun home => absurd ?_ fresh, nofun⟩
    exact home ▸ List.mem_of_getElem? atCell

theorem testBit_mask_iff (g : Grid α) (s : Sphere α) (object q : Nat) :
    (parityMask (g.recordedCells s)).testBit q = true ↔ ∃ e ∈ g.entries s object, e.tag.cell = q := by
  rw [testBit_parityMask]
  constructor
  · rintro ⟨c, recorded, rfl⟩
    obtain ⟨e, member, rfl⟩ := exists_entry recorded object
    exact ⟨e, member, (tag_of_mem_entries member).1⟩
  · rintro ⟨e, member, rfl⟩
    exact ⟨e.cell, cell_of_mem_entries member, (tag_of_mem_entries member).1.symm⟩

theorem pairwise_cells (g : Grid α) (s : Sphere α) (object : Nat) :
    (g.entries s object).Pairwise fun e f => e.cell ≠ f.cell ∧ e.tag.cell ≠ f.tag.cell := by
  have cells : (g.entries s object).Pairwise fun e f => e.cell ≠ f.cell := by
    rw [← List.pairwise_map (f := fun e : Entry => e.cell), map_cell_entries]
    exact recordedCells_nodup g s
  refine cells.imp_of_mem fun {e f} he hf differ => ⟨differ, fun same => differ ?_⟩
  rw [(tag_of_mem_entries he).1, (tag_of_mem_entries hf).1] at same
  exact Block.eq_of_parity (recordedCells_mem (cell_of_mem_entries he)) (recordedCells_mem (cell_of_mem_entries hf)) same

theorem upward_iff (b : Bool) : decide (0 < (if b = true then 1 else -1 : Int)) = b := by
  cases b <;> rfl

theorem testBit_direction (g : Grid α) (s : Sphere α) :
    (Entry.directionBits (g.direction s)).testBit 2 = Scalar.below (g.center (g.cellAt s.center)).x s.center.x ∧
      (Entry.directionBits (g.direction s)).testBit 1 = Scalar.below (g.center (g.cellAt s.center)).y s.center.y ∧
      (Entry.directionBits (g.direction s)).testBit 0 = Scalar.below (g.center (g.cellAt s.center)).z s.center.z := by
  obtain ⟨x, y, z⟩ := Entry.testBit_directionBits (g.direction s)
  exact ⟨x.trans (upward_iff _), y.trans (upward_iff _), z.trans (upward_iff _)⟩

end Entries

theorem layout_entries (g : Grid Float32) (s : Sphere Float32) (object : Nat) :
    g.Layout s object (g.entries s object) where
  cells := map_cell_entries g s object
  home _ _ found := isHome_iff_first found
  used e member := by
    rw [Entry.isSentinel, decide_eq_false_iff_not]
    exact not_sentinel_of_mem_entries member
  distinct := pairwise_cells g s object
  signed := List.all_eq_true.1 (all_signed g s)
  object _ member := object_of_mem_entries member
  bucket e member := by
    have same := bucket_of_mem_entries member
    exact ⟨same, same ▸ g.hash.bucket_lt e.cell⟩
  parities e member := ⟨(tag_of_mem_entries member).1, (tag_of_mem_entries member).2.1⟩
  direction e member := (tag_of_mem_entries member).2.2.2 ▸ testBit_direction g s
  mask := ⟨_, fun _ member => (tag_of_mem_entries member).2.2.1, testBit_mask_iff g s object⟩

/-- Whatever its eight slots held, an object comes to have its records in
the first of them, at least one, and no records in the others. -/
theorem writeSlots_layout (g : Grid Float32) (s : Sphere Float32) (object : Nat) :
    ∃ recorded : List Entry, 0 < recorded.length ∧ recorded.length ≤ 8 ∧ g.Layout s object recorded ∧
      ∀ old : List Entry, old.length = 8 → g.writeSlots s object old =
        .ok (recorded ++ List.replicate (8 - recorded.length) Entry.sentinel) :=
  ⟨g.entries s object, Nat.succ_pos _, length_entries g s object, layout_entries g s object,
    fun _ eight => writeSlots_eq_ok g s object eight⟩

def unitCells : Grid Float32 where
  cellSize := 1
  origin := ⟨0, 0, 0⟩

/-- A sphere that stays inside its cell and comes close to a side of it. -/
def closeSphere : Sphere Float32 where
  center := ⟨0.9, 0.5, 0.5⟩
  radius := 0.08

/-- Only the enlarged sphere reaches the next cell, which gets the second
record. The other six slots are left without one. -/
theorem writeSlots_layout_close :
    (List.replicate 8 Entry.sentinel).length = 8 ∧ closeSphere.touches (unitCells.box ⟨1, 0, 0⟩) = false ∧
      ∃ recorded, unitCells.Layout closeSphere 3 recorded ∧ recorded.map (·.cell) = [⟨0, 0, 0⟩, ⟨1, 0, 0⟩] ∧
        unitCells.writeSlots closeSphere 3 (List.replicate 8 Entry.sentinel) =
          .ok (recorded ++ List.replicate 6 Entry.sentinel) := by
  have eight : (List.replicate 8 Entry.sentinel).length = 8 := List.length_replicate
  obtain ⟨recorded, _, _, layout, written⟩ := writeSlots_layout unitCells closeSphere 3
  have cells : recorded.map (·.cell) = [⟨0, 0, 0⟩, ⟨1, 0, 0⟩] := by
    rw [layout.cells]
    decide +kernel
  have two : recorded.length = 2 := by
    rw [← List.length_map (fun e : Entry => e.cell), cells]
    rfl
  refine ⟨eight, by decide +kernel, recorded, layout, cells, ?_⟩
  rw [written _ eight, two]

/-- A sphere beyond the last machine cell, so large that it touches every
box. It fills a whole block, up to the greatest coordinate that there is. -/
example : unitCells.recordedCells ⟨⟨1e30, 0.9, 0.5⟩, 1e30⟩ =
    [⟨2147483646, 0, 0⟩, ⟨2147483647, 0, 0⟩, ⟨2147483646, 1, 0⟩, ⟨2147483646, 0, -1⟩,
      ⟨2147483646, 1, -1⟩, ⟨2147483647, 0, -1⟩, ⟨2147483647, 1, 0⟩, ⟨2147483647, 1, -1⟩] := by
  decide +kernel

end Grid

end ContactGrid
