import ContactGrid.Proofs.ExactGeometry
import Mathlib.Analysis.InnerProductSpace.PiL2

namespace ContactGrid

namespace Vec

/-- Where an exact point lies in Euclidean space. -/
noncomputable def position (v : Vec Rat) : EuclideanSpace ℝ (Fin 3) :=
  !₂[(v.x : ℝ), (v.y : ℝ), (v.z : ℝ)]

theorem dist_position (v w : Vec Rat) : dist v.position w.position = √(v.distanceSquared w : ℝ) := by
  rw [EuclideanSpace.dist_eq, Fin.sum_univ_three, distanceSquared_eq]
  push_cast
  simp only [position, Real.dist_eq, pow_two, abs_mul_abs_self]
  rfl

theorem dist_position_le_iff {v w : Vec Rat} {r : Rat} (nonneg : 0 ≤ r) :
    dist v.position w.position ≤ r ↔ v.distanceSquared w ≤ r * r := by
  rw [dist_position, Real.sqrt_le_left (Rat.cast_nonneg.2 nonneg), pow_two, ← Rat.cast_mul, Rat.cast_le]

theorem dist_position_le_of_le {u v w : Vec Rat} (nearer : u.distanceSquared v ≤ u.distanceSquared w) :
    dist u.position v.position ≤ dist u.position w.position := by
  rw [dist_position, dist_position]
  exact Real.sqrt_le_sqrt (Rat.cast_le.2 nearer)

end Vec

variable {s t : Sphere Rat} {b : Box Rat} {p : Vec Rat}

theorem Sphere.dist_le_radius_iff (nonneg : 0 ≤ s.radius) :
    dist s.center.position p.position ≤ s.radius ↔ s.Reaches p :=
  Vec.dist_position_le_iff nonneg

/-- Spheres with a point in common overlap, since the way from center to
center through that point is not longer than both radii. The point need not
be exact. -/
theorem Sphere.overlaps_of_common {q : EuclideanSpace ℝ (Fin 3)} (nonnegS : 0 ≤ s.radius)
    (nonnegT : 0 ≤ t.radius) (reachS : dist s.center.position q ≤ s.radius)
    (reachT : dist t.center.position q ≤ t.radius) : s.overlaps t = true := by
  rw [overlaps_iff, ← Vec.dist_position_le_iff (add_nonneg nonnegS nonnegT), Rat.cast_add]
  calc dist s.center.position t.center.position
      ≤ dist s.center.position q + dist t.center.position q := dist_triangle_right _ _ _
    _ ≤ s.radius + t.radius := add_le_add reachS reachT

/-- The box has a low and a high side on every axis, which may coincide. -/
def Box.Proper (b : Box Rat) : Prop :=
  b.low.x ≤ b.high.x ∧ b.low.y ≤ b.high.y ∧ b.low.z ≤ b.high.z

theorem clamp_inside {low high : Rat} (proper : low ≤ high) (c : Rat) :
    low ≤ Scalar.smaller (Scalar.larger c low) high ∧ Scalar.smaller (Scalar.larger c low) high ≤ high := by
  rcases clamp_cases proper c with ⟨_, side⟩ | ⟨_, side⟩ | ⟨between, same⟩
  · rw [side]
    exact ⟨le_rfl, proper⟩
  · rw [side]
    exact ⟨proper, le_rfl⟩
  · rw [same]
    exact between

theorem Box.has_closest (proper : b.Proper) (c : Vec Rat) : b.Has (b.closest c) :=
  ⟨clamp_inside proper.1 c.x, clamp_inside proper.2.1 c.y, clamp_inside proper.2.2 c.z⟩

/-- In exact arithmetic the two tests mean what they say: two spheres
overlap exactly if some point lies within both radii, and a sphere touches a
box exactly if some point of the box lies within the radius. The closest
point of a box belongs to it, and no other point of the box is nearer. -/
theorem Sphere.tests_iff_common_point (nonnegS : 0 ≤ s.radius) (nonnegT : 0 ≤ t.radius) (proper : b.Proper) :
    (s.overlaps t = true ↔
        ∃ p : Vec Rat, dist s.center.position p.position ≤ s.radius ∧ dist t.center.position p.position ≤ t.radius) ∧
      (s.touches b = true ↔ ∃ p : Vec Rat, b.Has p ∧ dist s.center.position p.position ≤ s.radius) ∧
      b.Has (b.closest s.center) ∧
      ∀ p, b.Has p → dist s.center.position (b.closest s.center).position ≤ dist s.center.position p.position := by
  have inside : b.Has (b.closest s.center) := Box.has_closest proper s.center
  have nearest : ∀ p, b.Has p →
      dist s.center.position (b.closest s.center).position ≤ dist s.center.position p.position := fun p has =>
    Vec.dist_position_le_of_le (Box.closest_nearest has s.center)
  refine ⟨⟨fun overlap => ?_, ?_⟩, ?_, inside, nearest⟩
  · obtain ⟨p, reachS, reachT⟩ := exists_common nonnegS nonnegT overlap
    exact ⟨p, (dist_le_radius_iff nonnegS).2 reachS, (dist_le_radius_iff nonnegT).2 reachT⟩
  · rintro ⟨p, reachS, reachT⟩
    exact overlaps_of_common nonnegS nonnegT reachS reachT
  · rw [touches_iff, ← dist_le_radius_iff nonnegS]
    constructor
    · intro reach
      exact ⟨b.closest s.center, inside, reach⟩
    · rintro ⟨p, has, reach⟩
      exact (nearest p has).trans reach

/-- Two spheres in line touch each other, and one of them just reaches over
the corner of a box. -/
theorem Sphere.tests_iff_common_point_corner :
    (∃ p : Vec Rat, dist (⟨6 / 5, 6 / 5, 6 / 5⟩ : Vec Rat).position p.position ≤ (7 / 20 : Rat) ∧
        dist (⟨6 / 5, 6 / 5, 2⟩ : Vec Rat).position p.position ≤ (9 / 20 : Rat)) ∧
      (∃ p : Vec Rat, (⟨⟨0, 0, 0⟩, ⟨1, 1, 1⟩⟩ : Box Rat).Has p ∧
        dist (⟨6 / 5, 6 / 5, 6 / 5⟩ : Vec Rat).position p.position ≤ (7 / 20 : Rat)) := by
  obtain ⟨overlaps, touches, _⟩ :=
    tests_iff_common_point (s := ⟨⟨6 / 5, 6 / 5, 6 / 5⟩, 7 / 20⟩) (t := ⟨⟨6 / 5, 6 / 5, 2⟩, 9 / 20⟩)
      (b := ⟨⟨0, 0, 0⟩, ⟨1, 1, 1⟩⟩) (by decide +kernel) (by decide +kernel) ⟨by decide, by decide, by decide⟩
  exact ⟨overlaps.1 (by decide +kernel), touches.1 (by decide +kernel)⟩

end ContactGrid
