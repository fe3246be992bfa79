import ContactGrid.Proofs.ExactGeometry
import ContactGrid.Proofs.Ownership

namespace ContactGrid

namespace Grid

variable {g : Grid Rat} {s t : Sphere Rat} {p : Vec Rat} {c : Cell}

/-- The cell that holds a point, if cells own their high sides instead of
their low ones. -/
def cellBelow (g : Grid Rat) (p : Vec Rat) : Cell :=
  (p - g.origin).map fun d => ⌈d / g.cellSize⌉ - 1

theorem ceil_bounds {size d : Rat} (positive : 0 < size) :
    ((⌈d / size⌉ - 1 : Int) : Rat) * size < d ∧ d ≤ ((⌈d / size⌉ - 1 : Int) : Rat) * size + size := by
  have low := Int.ceil_lt_add_one (d / size)
  have high := Int.le_ceil (d / size)
  rw [div_le_iff₀ positive] at high
  have below : (⌈d / size⌉ : Rat) - 1 < d / size := by linarith
  rw [lt_div_iff₀ positive] at below
  push_cast
  constructor
  · exact below
  · linarith

theorem floor_bounds {size d : Rat} (positive : 0 < size) :
    ((d / size).floor : Rat) * size ≤ d ∧ d < ((d / size).floor : Rat) * size + size := by
  have low := Rat.floor_le (d / size)
  have high := Rat.lt_floor_add_one (d / size)
  rw [le_div_iff₀ positive] at low
  rw [div_lt_iff₀ positive] at high
  push_cast at high
  constructor
  · exact low
  · linarith

theorem cast_lt_of_mul_lt {size : Rat} (positive : 0 < size) {i j : Int} (less : (i : Rat) * size < j * size) : i < j :=
  Int.cast_lt.1 (lt_of_mul_lt_mul_right less positive.le)

/-- On one axis, a point within the radius of the center lies in the two
cells of the block, read with their high sides: the block extends to the
side on which the center lies, and the other side of the home cell is half a
cell away. -/
theorem axis_covered {size center origin x r : Rat} (positive : 0 < size) (fits : 2 * r ≤ size)
    (near : |center - x| ≤ r) :
    ⌈(x - origin) / size⌉ - 1 = ((center - origin) / size).floor ∨
      ⌈(x - origin) / size⌉ - 1 = ((center - origin) / size).floor +
        if origin + (((center - origin) / size).floor + 1 / 2 : Rat) * size < center then 1 else -1 := by
  obtain ⟨left, right⟩ := abs_le.1 near
  obtain ⟨low, high⟩ := ceil_bounds (d := x - origin) positive
  obtain ⟨homeLow, homeHigh⟩ := floor_bounds (d := center - origin) positive
  generalize ⌈(x - origin) / size⌉ - 1 = k at *
  generalize ((center - origin) / size).floor = h at *
  by_cases up : origin + ((h : Rat) + 1 / 2) * size < center
  · rw [if_pos up]
    have above : h < k + 1 := cast_lt_of_mul_lt positive (by push_cast; linarith)
    have below : k < h + 2 := cast_lt_of_mul_lt positive (by push_cast; linarith)
    omega
  · rw [if_neg up]
    have above : h - 1 < k + 1 := cast_lt_of_mul_lt positive (by push_cast; linarith)
    have below : k < h + 1 := cast_lt_of_mul_lt positive (by push_cast; linarith)
    omega

theorem side_eq (size origin center : Rat) (home : Int) :
    (if Scalar.below (origin + (Scalar.ofCell home + (0.5 : Rat)) * size) center then 1 else -1 : Int) =
      if origin + ((home : Rat) + 1 / 2) * size < center then 1 else -1 := by
  have half : (0.5 : Rat) = 1 / 2 := by norm_num
  rw [half]
  simp only [Scalar.below, Scalar.ofCell, decide_eq_true_eq]

theorem cellBelow_mem_block (positive : 0 < g.cellSize) (nonneg : 0 ≤ s.radius) (fits : 2 * s.radius ≤ g.cellSize)
    (reach : s.Reaches p) : g.cellBelow p ∈ g.block s := by
  obtain ⟨x, y, z⟩ := reach.axes nonneg
  have onAxis {center origin x : Rat} (near : |center - x| ≤ s.radius) :
      ⌈(x - origin) / g.cellSize⌉ - 1 = ((center - origin) / g.cellSize).floor ∨
        ⌈(x - origin) / g.cellSize⌉ - 1 = ((center - origin) / g.cellSize).floor +
          if Scalar.below (origin + (Scalar.ofCell ((center - origin) / g.cellSize).floor + (0.5 : Rat)) * g.cellSize)
            center then 1 else -1 := by
    rw [side_eq]
    exact axis_covered positive fits near
  exact ⟨onAxis x, onAxis y, onAxis z⟩

theorem box_has_of_cellBelow (positive : 0 < g.cellSize) (p : Vec Rat) : (g.box (g.cellBelow p)).Has p := by
  have onAxis (x origin : Rat) :
      origin + ((⌈(x - origin) / g.cellSize⌉ - 1 : Int) : Rat) * g.cellSize ≤ x ∧
        x ≤ origin + ((⌈(x - origin) / g.cellSize⌉ - 1 : Int) : Rat) * g.cellSize + g.cellSize := by
    obtain ⟨low, high⟩ := ceil_bounds (d := x - origin) positive
    constructor <;> linarith
  exact ⟨onAxis p.x g.origin.x, onAxis p.y g.origin.y, onAxis p.z g.origin.z⟩

theorem proxy_touches {b : Box Rat} (nonneg : 0 ≤ s.radius) (inside : b.Has p) (reach : s.Reaches p) :
    (s.scaled proxyScale).touches b = true := by
  rw [Sphere.touches_iff, Sphere.Reaches]
  have nearest : s.center.distanceSquared (b.closest s.center) ≤ s.radius * s.radius :=
    (Box.closest_nearest inside s.center).trans reach
  have larger : s.radius ≤ s.radius * 1.5 := by linarith
  exact nearest.trans (mul_self_le_mul_self nonneg larger)

/-- The cells of all points of a small sphere are recorded. -/
theorem cellBelow_mem_recordedCells (positive : 0 < g.cellSize) (nonneg : 0 ≤ s.radius)
    (fits : 2 * s.radius ≤ g.cellSize) (reach : s.Reaches p) : g.cellBelow p ∈ g.recordedCells s := by
  rcases List.mem_cons.1 (mem_block.1 (cellBelow_mem_block positive nonneg fits reach)) with home | neighbor
  · rw [home]
    exact List.mem_cons_self
  · exact List.mem_cons_of_mem _
      (List.mem_filter.2 ⟨neighbor, proxy_touches nonneg (box_has_of_cellBelow positive p) reach⟩)

/-- In exact arithmetic no pair is missed: spheres that overlap are both
recorded in some cell, wherever the origin is and whatever the size of cells
is, as long as no sphere is wider than a cell. -/
theorem exact_overlaps_meet (positive : 0 < g.cellSize) (nonnegS : 0 ≤ s.radius) (nonnegT : 0 ≤ t.radius)
    (fitsS : 2 * s.radius ≤ g.cellSize) (fitsT : 2 * t.radius ≤ g.cellSize) (overlap : s.overlaps t = true) :
    ∃ c, c ∈ g.recordedCells s ∧ c ∈ g.recordedCells t := by
  obtain ⟨p, reachS, reachT⟩ := Sphere.exists_common nonnegS nonnegT overlap
  exact ⟨g.cellBelow p, cellBelow_mem_recordedCells positive nonnegS fitsS reachS,
    cellBelow_mem_recordedCells positive nonnegT fitsT reachT⟩

/-- The tight case: both spheres fill a cell and touch at its side, with
their centers in the middle. -/
theorem exact_overlaps_meet_at_side : ∃ c,
    c ∈ (⟨1, ⟨0, 0, 0⟩, .shift⟩ : Grid Rat).recordedCells ⟨⟨1 / 2, 1 / 2, 1 / 2⟩, 1 / 2⟩ ∧
      c ∈ (⟨1, ⟨0, 0, 0⟩, .shift⟩ : Grid Rat).recordedCells ⟨⟨3 / 2, 1 / 2, 1 / 2⟩, 1 / 2⟩ :=
  exact_overlaps_meet (by decide +kernel) (by decide +kernel) (by decide +kernel) (by decide +kernel)
    (by decide +kernel) (by decide +kernel)

end Grid

end ContactGrid
