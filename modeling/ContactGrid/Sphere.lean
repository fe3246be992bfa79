import ContactGrid.Vec

namespace ContactGrid

structure Sphere (α : Type) where
  center : Vec α
  radius : α
  deriving DecidableEq

/-- A box with sides along the axes. All of its sides belong to it. -/
structure Box (α : Type) where
  low : Vec α
  high : Vec α
  deriving DecidableEq

instance {α : Type} [Inhabited α] : Inhabited (Sphere α) where
  default := ⟨default, default⟩

variable {α : Type} [Scalar α]

/-- The point of the box closest to `p`. -/
def Box.closest (b : Box α) (p : Vec α) : Vec α :=
  (p.map₂ Scalar.larger b.low).map₂ Scalar.smaller b.high

namespace Sphere

def scaled (s : Sphere α) (factor : α) : Sphere α :=
  { s with radius := s.radius * factor }

/-- The tight box around the sphere. -/
def box (s : Sphere α) : Box α :=
  ⟨s.center - Vec.splat s.radius, s.center + Vec.splat s.radius⟩

/-- Two spheres overlap when their centers are no farther apart than the sum
of their radii. -/
def overlaps (s t : Sphere α) : Bool :=
  let r := s.radius + t.radius
  Scalar.atMost (s.center.distanceSquared t.center) (r * r)

/-- A sphere touches a box when the closest point of the box is within its
radius. -/
def touches (s : Sphere α) (b : Box α) : Bool :=
  Scalar.atMost (s.center.distanceSquared (b.closest s.center)) (s.radius * s.radius)

end Sphere

end ContactGrid
