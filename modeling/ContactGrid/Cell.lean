import ContactGrid.Vec
import ContactGrid.Word

namespace ContactGrid

/-- A cell of the grid, named by its three integer coordinates. -/
abbrev Cell := Vec Int

def parityBit (i : Int) : Nat :=
  (i % 2).toNat

/-- One of eight classes, by which of the coordinates are odd. The eight
cells around any corner of the grid belong to different classes. -/
def Cell.parity (c : Cell) : Nat :=
  4 * parityBit c.x + 2 * parityBit c.y + parityBit c.z

theorem parityBit_lt (i : Int) : parityBit i < 2 := by
  unfold parityBit
  omega

theorem Cell.parity_lt (c : Cell) : c.parity < 8 := by
  have hx := parityBit_lt c.x
  have hy := parityBit_lt c.y
  have hz := parityBit_lt c.z
  unfold Cell.parity
  omega

/-- How cells are spread over buckets. -/
inductive CellHash where
  | shift
  | morton
  deriving DecidableEq

instance : Inhabited CellHash where
  default := .shift

def bucketModulus : Nat := Nat.pow 2 30

/-- Lays a word over a copy of itself farther up and keeps the bits of a
mask. -/
def overlay (shift mask n : Nat) : Nat :=
  (n ||| n <<< shift) &&& mask

/-- The low ten bits of a word, every bit moved to three times its place.
The first step takes the upper two of them apart from the others. Each step
after it cuts the groups that still stand side by side in half. -/
def spread (n : Nat) : Nat :=
  overlay 2 0x09249249 (overlay 4 0x030C30C3 (overlay 8 0x0300F00F (overlay 16 0x030000FF (n &&& 0x3FF))))

/-- The bucket of a cell. Shifted coordinates are mixed by exclusive or; the
Morton code interleaves the low ten bits of each. -/
def CellHash.bucket (h : CellHash) (c : Cell) : Nat :=
  match h with
  | .shift => ((word c.x <<< 20) ^^^ (word c.y <<< 10) ^^^ word c.z) % bucketModulus
  | .morton => (spread (word c.x) <<< 2) ||| (spread (word c.y) <<< 1) ||| spread (word c.z)

def CellHash.name : CellHash → String
  | .shift => "shift"
  | .morton => "morton"

end ContactGrid
