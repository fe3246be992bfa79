import ContactGrid.Cell
import ContactGrid.Entry.Tag
import ContactGrid.Failure

namespace ContactGrid

/-- The record of one object in one of its cells. -/
structure Entry where
  bucket : Nat
  object : Nat
  cell : Cell
  tag : Tag
  deriving DecidableEq

namespace Entry

/-- The bucket of unused slots, behind every bucket of a cell. -/
def sentinelBucket : Nat := limit32 - 1

/-- What an unused slot holds. -/
def sentinel : Entry where
  bucket := sentinelBucket
  object := limit32 - 1
  cell := ⟨-1, -1, -1⟩
  tag := ⟨0⟩

instance : Inhabited Entry where
  default := sentinel

/-- The direction of a block in the order of parity bits. -/
def directionBits (direction : Cell) : Nat :=
  (if 0 < direction.x then 4 else 0) + (if 0 < direction.y then 2 else 0) +
    (if 0 < direction.z then 1 else 0)

theorem directionBits_lt (direction : Cell) : directionBits direction < 8 := by
  unfold directionBits
  split <;> split <;> split <;> decide

/-- The record of an object in `cell`, which belongs to the block that
extends from `home` along `direction`. -/
def occupying (object bucket : Nat) (cell home direction : Cell) (mask : Nat) : Entry where
  bucket := bucket
  object := object
  cell := cell
  tag := .pack cell.parity home.parity mask (directionBits direction)

def isSentinel (e : Entry) : Bool :=
  e.bucket = sentinelBucket

def isHome (e : Entry) : Bool :=
  e.tag.cell = e.tag.home

/-- Records outside the home cell are phantoms. -/
def isPhantom (e : Entry) : Bool :=
  !e.isHome

/-- One coordinate of the cell of parity `q`, by the parity bit of one axis.
A coordinate of the right parity stays; else the other cell of the block
lies one step along the direction as seen from the home side, and one step
against it as seen from the far side. -/
def coordinateOf (tag : Tag) (q bit : Nat) (i : Int) : Int :=
  if q.testBit bit = tag.cell.testBit bit then i
  else
    let step : Int := if tag.direction.testBit bit then 1 else -1
    if tag.cell.testBit bit = tag.home.testBit bit then i + step else i - step

/-- The cell of parity `q` in the block of the object. -/
def cellOf (e : Entry) (q : Nat) : Cell :=
  ⟨coordinateOf e.tag q 2 e.cell.x, coordinateOf e.tag q 1 e.cell.y, coordinateOf e.tag q 0 e.cell.z⟩

/-- Parities below that of the common cell in which both objects are
recorded, in ascending order. -/
def sharedBelow (e f : Entry) : List Nat :=
  (List.range e.tag.cell).filter fun q => e.tag.mask.testBit q && f.tag.mask.testBit q

/-- Whether two records of one cell belong to a pair that another cell owns:
one of lower parity in which both objects are recorded. -/
def ownedElsewhere (e f : Entry) : Bool :=
  (sharedBelow e f).any fun q => e.cellOf q = f.cellOf q

def header : String :=
  "bucket,object_id,cell_x,cell_y,cell_z,pass_type,home_type,overlap_mask,block_dir,is_home"

/-- The columns of the header, one line for each record. -/
def columns (e : Entry) : List String :=
  [toString e.bucket, toString e.object, toString e.cell.x, toString e.cell.y, toString e.cell.z,
    toString e.tag.cell, toString e.tag.home, binaryText 8 e.tag.mask, binaryText 3 e.tag.direction,
    if e.isHome then "1" else "0"]

def text (e : Entry) : String :=
  ",".intercalate e.columns

end Entry

end ContactGrid
