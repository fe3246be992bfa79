import ContactGrid.Scalar

namespace ContactGrid

@[ext]
structure Vec (α : Type) where
  x : α
  y : α
  z : α
  deriving DecidableEq

namespace Vec

variable {α β γ : Type}

def map (f : α → β) (v : Vec α) : Vec β :=
  ⟨f v.x, f v.y, f v.z⟩

def map₂ (f : α → β → γ) (v : Vec α) (w : Vec β) : Vec γ :=
  ⟨f v.x w.x, f v.y w.y, f v.z w.z⟩

def all (p : α → Bool) (v : Vec α) : Bool :=
  p v.x && p v.y && p v.z

def splat (a : α) : Vec α :=
  ⟨a, a, a⟩

instance [Inhabited α] : Inhabited (Vec α) where
  default := splat default

instance [Add α] : Add (Vec α) where
  add := map₂ (· + ·)

instance [Sub α] : Sub (Vec α) where
  sub := map₂ (· - ·)

instance [Mul α] : Mul (Vec α) where
  mul := map₂ (· * ·)

/-- The order of the two additions matters to numbers that round. -/
def dot [Add α] [Mul α] (v w : Vec α) : α :=
  (v.x * w.x + v.y * w.y) + v.z * w.z

section Coordinates

variable (v w : Vec α)

@[simp]
theorem map_x (f : α → β) : (v.map f).x = f v.x := rfl

@[simp]
theorem map_y (f : α → β) : (v.map f).y = f v.y := rfl

@[simp]
theorem map_z (f : α → β) : (v.map f).z = f v.z := rfl

@[simp]
theorem map₂_x (f : α → β → γ) (w : Vec β) : (v.map₂ f w).x = f v.x w.x := rfl

@[simp]
theorem map₂_y (f : α → β → γ) (w : Vec β) : (v.map₂ f w).y = f v.y w.y := rfl

@[simp]
theorem map₂_z (f : α → β → γ) (w : Vec β) : (v.map₂ f w).z = f v.z w.z := rfl

@[simp]
theorem add_x [Add α] : (v + w).x = v.x + w.x := rfl

@[simp]
theorem add_y [Add α] : (v + w).y = v.y + w.y := rfl

@[simp]
theorem add_z [Add α] : (v + w).z = v.z + w.z := rfl

@[simp]
theorem sub_x [Sub α] : (v - w).x = v.x - w.x := rfl

@[simp]
theorem sub_y [Sub α] : (v - w).y = v.y - w.y := rfl

@[simp]
theorem sub_z [Sub α] : (v - w).z = v.z - w.z := rfl

@[simp]
theorem mul_x [Mul α] : (v * w).x = v.x * w.x := rfl

@[simp]
theorem mul_y [Mul α] : (v * w).y = v.y * w.y := rfl

@[simp]
theorem mul_z [Mul α] : (v * w).z = v.z * w.z := rfl

end Coordinates

def distanceSquared [Add α] [Sub α] [Mul α] (v w : Vec α) : α :=
  dot (v - w) (v - w)

end Vec

end ContactGrid
