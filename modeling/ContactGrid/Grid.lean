import ContactGrid.Cell
import ContactGrid.Failure
import ContactGrid.Sphere

namespace ContactGrid

/-- Cubic cells of one size, counted from an origin. -/
structure Grid (α : Type) where
  cellSize : α
  origin : Vec α
  hash : CellHash := .shift
  deriving DecidableEq

namespace Grid

variable {α : Type} [Scalar α]

/-- The cell that holds a point. A cell owns its low sides and not its high
sides. -/
def cellAt (g : Grid α) (p : Vec α) : Cell :=
  (p - g.origin).map fun d => Scalar.cellAt (d / g.cellSize)

def lowCorner (g : Grid α) (c : Cell) : Vec α :=
  g.origin + c.map fun i => Scalar.ofCell i * g.cellSize

def center (g : Grid α) (c : Cell) : Vec α :=
  g.origin + c.map fun i => (Scalar.ofCell i + 0.5) * g.cellSize

/-- A cell with all of its sides. -/
def box (g : Grid α) (c : Cell) : Box α :=
  ⟨g.lowCorner c, g.lowCorner c + Vec.splat g.cellSize⟩

def bucket (g : Grid α) (c : Cell) : Nat :=
  g.hash.bucket c

/-- On each axis, the side of the cell on which the center of the sphere
lies. The middle counts as low. -/
def direction (g : Grid α) (s : Sphere α) : Cell :=
  s.center.map₂ (fun c m => if Scalar.below m c then 1 else -1) (g.center (g.cellAt s.center))

/-- Steps from the home cell to the other seven cells of a block, before
they are turned toward the sphere. -/
def blockSteps : List Cell :=
  [⟨1, 0, 0⟩, ⟨0, 1, 0⟩, ⟨0, 0, 1⟩, ⟨0, 1, 1⟩, ⟨1, 0, 1⟩, ⟨1, 1, 0⟩, ⟨1, 1, 1⟩]

/-- The seven cells around the corner of the home cell that is nearest to
the center of the sphere. -/
def neighbors (g : Grid α) (s : Sphere α) : List Cell :=
  let home := g.cellAt s.center
  let direction := g.direction s
  blockSteps.map fun step => home + step * direction

/-- The sphere that decides which cells are recorded is larger than the
sphere itself. -/
def proxyScale : α := 1.5

/-- The cells in which a sphere is recorded: its home cell, then those
neighbors that the enlarged sphere touches. -/
def recordedCells (g : Grid α) (s : Sphere α) : List Cell :=
  let proxy := s.scaled proxyScale
  g.cellAt s.center :: (g.neighbors s).filter fun c => proxy.touches (g.box c)

/-- A usable grid has a positive and finite cell size, and a finite origin. -/
def validate (g : Grid Float32) : Except SettingError Unit :=
  if !(g.cellSize.isFinite && Float32.lt 0 g.cellSize) then .error (.unusableCellSize g.cellSize)
  else if !g.origin.all Float32.isFinite then .error .unboundedOrigin
  else .ok ()

end Grid

/-- The automatic cell size, in units of the largest radius. -/
def cellSizeScale : Float32 := 1.5 * 1.5

/-- With cells of at least this size, in units of the largest radius, every
sphere stays in its block. -/
def leastCellRatio : Float32 := 2

end ContactGrid
