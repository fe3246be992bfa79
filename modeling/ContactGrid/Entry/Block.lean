import ContactGrid.Entry.Basic
import ContactGrid.Grid

namespace ContactGrid

namespace Grid

variable {α : Type} [Scalar α]

/-- The set of parities of some cells, as bits. -/
def parityMask (cells : List Cell) : Nat :=
  cells.foldl (fun mask c => mask ||| 1 <<< c.parity) 0

/-- The records of an object, one for each recorded cell. All of them know
the whole set of parities. -/
def entries (g : Grid α) (s : Sphere α) (object : Nat) : List Entry :=
  let cells := g.recordedCells s
  let home := g.cellAt s.center
  let direction := g.direction s
  let mask := parityMask cells
  cells.map fun c => .occupying object (g.bucket c) c home direction mask

/-- No coordinate differs by more than one. -/
def adjacent (c d : Cell) : Bool :=
  (c - d).all fun i => -1 ≤ i && i ≤ 1

/-- Whether the fields of all records of an object can be packed. -/
def tagsFit (g : Grid α) (s : Sphere α) : Bool :=
  let cells := g.recordedCells s
  let mask := parityMask cells
  cells.all fun c => Tag.fits c.parity (g.cellAt s.center).parity mask (Entry.directionBits (g.direction s))

/-- Overwrites the slots of an object: its records first, then sentinels. -/
def writeSlots (g : Grid α) (s : Sphere α) (object : Nat) (slots : List Entry) :
    Except Fault (List Entry) := do
  Fault.check (slots.length = 8) "an object has eight slots"
  let home := g.cellAt s.center
  if !(home :: g.neighbors s).all (·.all inSignedWord) then throw .overflow
  let entries := g.entries s object
  Fault.check (entries.all fun e => !e.isSentinel) "recorded buckets are valid"
  Fault.check (entries.all fun e => adjacent e.cell home) "recorded cells belong to the block"
  Fault.check (g.tagsFit s) "the fields of a tag stay within their bits"
  return entries ++ (slots.drop entries.length).map fun _ => Entry.sentinel

end Grid

end ContactGrid
