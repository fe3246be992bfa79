import ContactGrid.Decimal.Binary

namespace ContactGrid

/-- Numbers that positions and radii are made of. There are two readings:
machine numbers, which round, and whose cells stop short of the range of a
signed word, and exact rationals, which do neither. -/
class Scalar (α : Type) extends Add α, Sub α, Mul α, Div α, OfScientific α where
  atMost : α → α → Bool
  below : α → α → Bool
  /-- The larger operand. An undefined operand gives way to the other one,
  and the first wins a tie. -/
  larger : α → α → α
  /-- The smaller operand, under the same rules. -/
  smaller : α → α → α
  /-- The low corner of a cell, for cells of size one. -/
  ofCell : Int → α
  /-- The cell that holds a number, for cells of size one. -/
  cellAt : α → Int

/-- Machine cells reach this far in both directions, so that one step more
is still a signed word. -/
def cellLimit : Int := 2147483646

def clampCell (i : Int) : Int :=
  max (-cellLimit) (min i cellLimit)

namespace Dyadic

/-- The greatest integer that does not exceed the number, kept within the
range of machine cells. An undefined number counts as zero. -/
def cell : Dyadic → Int
  | .undefined => 0
  | .infinite negative => if negative then -cellLimit else cellLimit
  | .finite negative m q => clampCell (floor (if negative then -m else m) q)

end Dyadic

def real32Larger (x y : Float32) : Float32 :=
  if x.isNaN then y else if x < y then y else x

def real32Smaller (x y : Float32) : Float32 :=
  if x.isNaN then y else if y < x then y else x

instance : Scalar Float32 where
  atMost := Float32.le
  below := Float32.lt
  larger := real32Larger
  smaller := real32Smaller
  ofCell := Float32.ofInt
  cellAt x := (Dyadic.ofFloat32 x).cell

instance : Scalar Rat where
  atMost x y := x ≤ y
  below x y := x < y
  larger x y := if x < y then y else x
  smaller x y := if y < x then y else x
  ofCell i := i
  cellAt := Rat.floor

end ContactGrid
