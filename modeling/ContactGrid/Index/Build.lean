import ContactGrid.Bulk.Maximum
import ContactGrid.Bulk.PrefixSum
import ContactGrid.Bulk.Runs
import ContactGrid.Entry.Block
import ContactGrid.Index.Basic
import ContactGrid.Word

namespace ContactGrid

namespace Index

/-- Slots are numbered by words of 32 bits, with one slot to spare. -/
def maxObjects : Nat := (limit32 - 2) / slotsPerObject

/-- Slots for some objects and the one to spare, as far as 64 bits can
tell. -/
def slotDemand (objects : Nat) : Nat :=
  min (min (objects * slotsPerObject) (limit64 - 1) + 1) (limit64 - 1)

/-- Refuses an operation that comes before the one it depends on. -/
def requireStage (needed : Stage) (operation : String) : Action Unit := do
  if (← Action.index).stage.rank < needed.rank then
    Action.refuse (.outOfOrder needed.producer operation)

def reach (stage : Stage) : Action Unit :=
  Action.onIndex fun x => { x with stage }

/-- Forgets the bound objects and everything made from them. -/
def unbind (x : Index) : Index :=
  { x.reopen .empty with
    objectCount := 0
    keys := x.keys.clear
    entries := x.entries.clear
    sortedKeys := x.sortedKeys.clear
    sortedEntries := x.sortedEntries.clear }

/-- Position of the first radius that is negative or undefined. -/
def badRadius? (radii : List Float32) : Option Nat :=
  radii.findIdx? fun r => !Float32.le 0 r

/-- Takes over the spheres and refuses the first bad radius. -/
def bind (memory : Memory) (source : Source) : Action Unit := do
  Action.onIndex unbind
  let n := source.count
  if maxObjects < n then Action.refuse (.capacity (slotDemand n) "cell records")
  let spheres ← Action.ofRefusal ((← Action.index).spheres.resize memory n)
  Action.onIndex fun x => { x with spheres }
  let radii ← Action.ofRefusal ((← Action.index).radii.resize memory n)
  Action.onIndex fun x => { x with radii }
  let uploaded ← Action.metered (Metered.eachElement .light
    (fun i _ => if h : i < source.count then .ok (source.sphere ⟨i, h⟩) else .error (.outOfRange i n))
    spheres.contents)
  Action.onIndex fun x => { x with spheres := x.spheres.write uploaded }
  let sphereAt := (← Action.index).spheres.contents.toArray
  let measured ← Action.metered (Metered.eachElement .light
    (fun i _ => (Fault.fetch sphereAt i).map (·.radius)) radii.contents)
  Action.onIndex fun x => { x with radii := x.radii.write measured }
  match badRadius? measured with
  | some i => Action.refuse (.setting (.unusableRadius i (measured.getD i default)))
  | none => pure ()
  Action.onIndex fun x => { x with objectCount := n }
  reach .bound
  Action.note (.bound n)

def setCellSize (cellSize : Float32) : Action Unit :=
  Action.onIndex fun x => { x with grid := { x.grid with cellSize } }

/-- Takes the requested cell size, or derives one from the largest radius. A
requested size that lets spheres leave their block is noted, if warnings
are. -/
def chooseCellSize (requested : Float32) (radii : List Float32) : Action Unit := do
  if Float32.lt 0 requested then
    setCellSize requested
    if (← get).journal.lets .warn then
      let maxRadius ← Action.metered (readMaximum radii)
      if Float32.lt requested (leastCellRatio * maxRadius) then
        Action.note (.undersized requested maxRadius)
  else
    let maxRadius ← Action.metered (readMaximum radii)
    let size := maxRadius * cellSizeScale
    if !(size.isFinite && Float32.lt 0 size) then
      Action.refuse (.setting (.noCellSizeFrom maxRadius))
    Action.note (.sized maxRadius size)
    setCellSize size

/-- Settles the cell size of this run. -/
def sizeCells : Action Unit := do
  requireStage .bound "estimate_cell_size"
  Action.onIndex (·.reopen .bound)
  let x ← Action.index
  if !x.requestedSize.isFinite then
    Action.refuse (.setting (.unusableCellSize x.requestedSize))
  if x.objectCount = 0 then setCellSize (real32Larger 0 x.requestedSize)
  else chooseCellSize x.requestedSize x.radii.contents
  reach .sized

/-- Writes the slots of `n` objects and a sentinel behind them, then the
bucket of every slot. The last sentinel sees to it that there is a bucket of
unused slots even if every object fills its own. -/
def fillSlots (memory : Memory) (n : Nat) : Action Unit := do
  let slots := n * slotsPerObject + 1
  let entries ← Action.ofRefusal ((← Action.index).entries.resize memory slots)
  Action.onIndex fun x => { x with entries }
  let keys ← Action.ofRefusal ((← Action.index).keys.resize memory slots)
  Action.onIndex fun x => { x with keys }
  let x ← Action.index
  let sphereAt := x.spheres.contents.toArray
  let objects := entries.contents.take (n * slotsPerObject)
  let tail := entries.contents.drop (n * slotsPerObject)
  let written ← Action.metered (Metered.eachPiece .light slotsPerObject
    (fun i slots => do x.grid.writeSlots (← Fault.fetch sphereAt i) i slots) objects)
  Action.onIndex fun x =>
    { x with entries := x.entries.write (written ++ tail.map fun _ => Entry.sentinel) }
  let entryAt := (← Action.index).entries.contents.toArray
  let buckets ← Action.metered (Metered.eachElement .light
    (fun i _ => (Fault.fetch entryAt i).map (·.bucket)) keys.contents)
  Action.onIndex fun x => { x with keys := x.keys.write buckets }
  Action.note (.filled n slots)

/-- Records every object in its cells. -/
def fill (memory : Memory) : Action Unit := do
  requireStage .sized "fill_hash_cells"
  Action.onIndex (·.reopen .sized)
  let x ← Action.index
  if x.objectCount = 0 then
    Action.onIndex fun x => { x with entries := x.entries.clear, keys := x.keys.clear }
  else
    match x.origin with
    | none => Action.refuse (.setting .missingOrigin)
    | some origin =>
      let grid := { x.grid with origin }
      Action.onIndex fun x => { x with grid }
      Action.ofRefusal (grid.validate.mapError .setting)
      fillSlots memory x.objectCount
  reach .filled

/-- Sorts the slots by bucket and keeps the order inside each bucket. -/
def sort (memory : Memory) : Action Unit := do
  requireStage .filled "sort_hash_cells"
  Action.onIndex (·.reopen .filled)
  let slots := (← Action.index).keys.length
  let sortedKeys ← Action.ofRefusal ((← Action.index).sortedKeys.resize memory slots)
  Action.onIndex fun x => { x with sortedKeys }
  let sortedEntries ← Action.ofRefusal ((← Action.index).sortedEntries.resize memory slots)
  Action.onIndex fun x => { x with sortedEntries }
  let x ← Action.index
  let (sortRoom, keys, entries) ← Action.metered (sortByKey memory x.sortRoom x.keys.contents
    x.entries.contents sortedKeys.contents sortedEntries.contents)
  Action.onIndex fun x =>
    { x with
      sortRoom
      sortedKeys := x.sortedKeys.write keys
      sortedEntries := x.sortedEntries.write entries }
  reach .sorted

/-- Finds the buckets of sorted slots: their keys, sizes and offsets. -/
def groupSlots (memory : Memory) (slots : Nat) : Action Unit := do
  let bucketKeys ← Action.ofRefusal ((← Action.index).bucketKeys.resize memory slots)
  Action.onIndex fun x => { x with bucketKeys }
  let bucketSizes ← Action.ofRefusal ((← Action.index).bucketSizes.resize memory slots)
  Action.onIndex fun x => { x with bucketSizes }
  let x ← Action.index
  let runs ← Action.metered (encodeRuns x.heads x.sortedKeys.contents bucketKeys.contents
    bucketSizes.contents)
  Action.onIndex fun x =>
    { x with
      heads := runs.heads
      bucketKeys := x.bucketKeys.write runs.unique
      bucketSizes := x.bucketSizes.write runs.counts }
  let bucketKeys ← Action.ofRefusal ((← Action.index).bucketKeys.resize memory runs.runs)
  Action.onIndex fun x => { x with bucketKeys }
  let bucketSizes ← Action.ofRefusal ((← Action.index).bucketSizes.resize memory runs.runs)
  Action.onIndex fun x => { x with bucketSizes }
  Action.ofFault (Fault.check (bucketKeys.contents.getLast? = some Entry.sentinelBucket)
    "sorted slots end with unused ones")
  let bucketOffsets ← Action.ofRefusal ((← Action.index).bucketOffsets.resize memory runs.runs)
  Action.onIndex fun x => { x with bucketOffsets }
  let x ← Action.index
  let (bases, offsets) ← Action.metered (exclusiveSums limit32 x.bases bucketSizes.contents
    bucketOffsets.contents)
  Action.onIndex fun x =>
    { x with bases, bucketOffsets := x.bucketOffsets.write offsets, bucketCount := runs.runs }

/-- Groups the sorted slots into buckets. -/
def group (memory : Memory) : Action Unit := do
  requireStage .sorted "count_collision_per_cell"
  Action.onIndex (·.reopen .sorted)
  let slots := (← Action.index).sortedKeys.length
  if slots ≠ 0 then groupSlots memory slots
  reach .grouped
  let x ← Action.index
  Action.note (.grouped x.objectCount x.validBuckets)

/-- All stages in order. -/
def build (memory : Memory) (source : Source) : Action Unit := do
  bind memory source
  sizeCells
  fill memory
  sort memory
  group memory

end Index

end ContactGrid
