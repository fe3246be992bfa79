import ContactGrid.Sphere
import Mathlib.Tactic.Linarith
import Mathlib.Tactic.Ring
import Mathlib.Tactic.FieldSimp
import Mathlib.Data.Rat.Floor

namespace ContactGrid

variable {s t : Sphere Rat} {b : Box Rat} {p : Vec Rat}

/-- The point lies within the radius of the center. -/
def Sphere.Reaches (s : Sphere Rat) (p : Vec Rat) : Prop :=
  s.center.distanceSquared p ≤ s.radius * s.radius

/-- The point belongs to the box, sides included. -/
def Box.Has (b : Box Rat) (p : Vec Rat) : Prop :=
  (b.low.x ≤ p.x ∧ p.x ≤ b.high.x) ∧ (b.low.y ≤ p.y ∧ p.y ≤ b.high.y) ∧ b.low.z ≤ p.z ∧ p.z ≤ b.high.z

theorem Vec.distanceSquared_eq (v w : Vec Rat) :
    v.distanceSquared w = (v.x - w.x) * (v.x - w.x) + (v.y - w.y) * (v.y - w.y) + (v.z - w.z) * (v.z - w.z) := rfl

theorem Sphere.overlaps_iff :
    s.overlaps t = true ↔ s.center.distanceSquared t.center ≤ (s.radius + t.radius) * (s.radius + t.radius) :=
  decide_eq_true_iff

theorem Sphere.touches_iff : s.touches b = true ↔ s.Reaches (b.closest s.center) :=
  decide_eq_true_iff

/-- Whoever is within a radius is within the radius on every axis. -/
theorem abs_le_of_sum_le {r d e f : Rat} (nonneg : 0 ≤ r) (reach : d * d + e * e + f * f ≤ r * r) : |d| ≤ r := by
  have square : d * d ≤ r * r := by
    have hu := mul_self_nonneg e
    have hv := mul_self_nonneg f
    linarith
  have bound : |d| ≤ |r| := abs_le_iff_mul_self_le.2 square
  rwa [abs_of_nonneg nonneg] at bound

theorem Sphere.Reaches.axes (nonneg : 0 ≤ s.radius) (reach : s.Reaches p) :
    |s.center.x - p.x| ≤ s.radius ∧ |s.center.y - p.y| ≤ s.radius ∧ |s.center.z - p.z| ≤ s.radius := by
  rw [Reaches, Vec.distanceSquared_eq] at reach
  refine ⟨abs_le_of_sum_le nonneg reach, abs_le_of_sum_le (e := s.center.z - p.z) (f := s.center.x - p.x) nonneg ?_,
    abs_le_of_sum_le (e := s.center.x - p.x) (f := s.center.y - p.y) nonneg ?_⟩
  · linarith
  · linarith

/-- The point that lies a part of the way from `v` to `w`. -/
def Vec.toward (v w : Vec Rat) (part : Rat) : Vec Rat :=
  ⟨v.x + part * (w.x - v.x), v.y + part * (w.y - v.y), v.z + part * (w.z - v.z)⟩

theorem Vec.distanceSquared_toward (v w : Vec Rat) (part : Rat) :
    v.distanceSquared (v.toward w part) = part * part * v.distanceSquared w := by
  simp only [distanceSquared_eq, toward]
  ring

theorem Vec.toward_reverse (v w : Vec Rat) (part : Rat) : v.toward w part = w.toward v (1 - part) := by
  simp only [toward, Vec.mk.injEq]
  refine ⟨?_, ?_, ?_⟩ <;> ring

theorem Vec.distanceSquared_comm (v w : Vec Rat) : v.distanceSquared w = w.distanceSquared v := by
  simp only [distanceSquared_eq]
  ring

/-- Spheres that overlap have a point in common. It divides the line between
the centers as the radii divide their sum. -/
theorem Sphere.exists_common (nonnegS : 0 ≤ s.radius) (nonnegT : 0 ≤ t.radius) (overlap : s.overlaps t = true) :
    ∃ p, s.Reaches p ∧ t.Reaches p := by
  rw [overlaps_iff] at overlap
  have whole : ∃ part, part * (s.radius + t.radius) = s.radius := by
    by_cases flat : s.radius + t.radius = 0
    · exact ⟨0, by linarith⟩
    · exact ⟨s.radius / (s.radius + t.radius), div_mul_cancel₀ _ flat⟩
  obtain ⟨part, near⟩ := whole
  have far : (1 - part) * (s.radius + t.radius) = t.radius := by linarith
  have within {k r : Rat} (scaled : k * (s.radius + t.radius) = r) :
      k * k * s.center.distanceSquared t.center ≤ r * r := by
    calc k * k * s.center.distanceSquared t.center
        ≤ k * k * ((s.radius + t.radius) * (s.radius + t.radius)) :=
          mul_le_mul_of_nonneg_left overlap (mul_self_nonneg k)
      _ = k * (s.radius + t.radius) * (k * (s.radius + t.radius)) := by ring
      _ = r * r := by rw [scaled]
  refine ⟨s.center.toward t.center part, ?_, ?_⟩
  · rw [Reaches, Vec.distanceSquared_toward]
    exact within near
  · rw [Reaches, Vec.toward_reverse, Vec.distanceSquared_toward, Vec.distanceSquared_comm]
    exact within far

/-- A place on an axis is moved to the side that it lies beyond, and stays
where it is between the sides. -/
theorem clamp_cases {low high : Rat} (proper : low ≤ high) (c : Rat) :
    (c < low ∧ Scalar.smaller (Scalar.larger c low) high = low) ∨
      (high < c ∧ Scalar.smaller (Scalar.larger c low) high = high) ∨
      (low ≤ c ∧ c ≤ high) ∧ Scalar.smaller (Scalar.larger c low) high = c := by
  simp only [Scalar.smaller, Scalar.larger]
  by_cases under : c < low
  · rw [if_pos under, if_neg (not_lt.2 proper)]
    exact Or.inl ⟨under, rfl⟩
  · rw [if_neg under]
    by_cases beyond : high < c
    · rw [if_pos beyond]
      exact Or.inr (Or.inl ⟨beyond, rfl⟩)
    · rw [if_neg beyond]
      exact Or.inr (Or.inr ⟨⟨not_lt.1 under, not_lt.1 beyond⟩, rfl⟩)

/-- Between its sides, the nearest place on an axis is at least as near as
any other. -/
theorem clamp_nearest {low high c x : Rat} (inside : low ≤ x ∧ x ≤ high) :
    (c - Scalar.smaller (Scalar.larger c low) high) * (c - Scalar.smaller (Scalar.larger c low) high) ≤
      (c - x) * (c - x) := by
  obtain ⟨above, below⟩ := inside
  rw [← abs_le_iff_mul_self_le]
  rcases clamp_cases (above.trans below) c with ⟨under, side⟩ | ⟨beyond, side⟩ | ⟨_, same⟩
  · rw [side, abs_of_nonpos (by linarith), abs_of_nonpos (by linarith)]
    linarith
  · rw [side, abs_of_nonneg (by linarith), abs_of_nonneg (by linarith)]
    linarith
  · rw [same, sub_self, abs_zero]
    exact abs_nonneg _

/-- No point of a box is nearer than the closest one. -/
theorem Box.closest_nearest (inside : b.Has p) (c : Vec Rat) :
    c.distanceSquared (b.closest c) ≤ c.distanceSquared p := by
  rw [Vec.distanceSquared_eq, Vec.distanceSquared_eq]
  exact add_le_add (add_le_add (clamp_nearest inside.1) (clamp_nearest inside.2.1)) (clamp_nearest inside.2.2)

end ContactGrid
