import ContactGrid.Bulk.Sort
import ContactGrid.Entry.Basic
import ContactGrid.Grid
import ContactGrid.Journal
import ContactGrid.Meter
import ContactGrid.Pair

namespace ContactGrid

/-- How far an index has been built. Each stage needs the one before it. -/
inductive Stage where
  | empty
  | bound
  | sized
  | filled
  | sorted
  | grouped
  deriving DecidableEq

namespace Stage

def rank : Stage → Nat
  | .empty => 0
  | .bound => 1
  | .sized => 2
  | .filled => 3
  | .sorted => 4
  | .grouped => 5

/-- The operation that reaches a stage. -/
def producer : Stage → String
  | .empty => "new"
  | .bound => "bind"
  | .sized => "estimate_cell_size"
  | .filled => "fill_hash_cells"
  | .sorted => "sort_hash_cells"
  | .grouped => "count_collision_per_cell"

end Stage

/-- Spheres to be indexed: how many there are, and each of them. -/
structure Source where
  count : Nat
  sphere : Fin count → Sphere Float32

def Source.ofArray (spheres : Array (Sphere Float32)) : Source :=
  ⟨spheres.size, fun i => spheres[i]⟩

def Source.ofList (spheres : List (Sphere Float32)) : Source :=
  .ofArray spheres.toArray

def Source.toList (s : Source) : List (Sphere Float32) :=
  List.ofFn s.sphere

/-- Slots reserved for each object, as many as a block has cells. -/
def slotsPerObject : Nat := 8

/-- An index of spheres by the buckets of their cells, with every
intermediate tape of its stages. Tapes only grow, so that an index can be
built again and again. -/
structure Index where
  groups : GroupSizes := {}
  origin : Option (Vec Float32) := none
  /-- Sizes that are not positive ask for an automatic size. -/
  requestedSize : Float32 := 0
  grid : Grid Float32 := ⟨0, ⟨0, 0, 0⟩, .shift⟩
  stage : Stage := .empty
  objectCount : Nat := 0
  bucketCount : Nat := 0
  pairCount : Nat := 0
  spheres : Tape (Sphere Float32) := .empty "spheres"
  radii : Tape Float32 := .empty "radii"
  keys : Tape Nat := .empty "cell keys"
  entries : Tape Entry := .empty "cell records"
  sortedKeys : Tape Nat := .empty "sorted cell keys"
  sortedEntries : Tape Entry := .empty "sorted cell records"
  bucketKeys : Tape Nat := .empty "unique buckets"
  bucketSizes : Tape Nat := .empty "bucket counts"
  bucketOffsets : Tape Nat := .empty "bucket offsets"
  pairSizes : Tape Nat := .empty "pair counts"
  pairOffsets : Tape Nat := .empty "pair offsets"
  sortRoom : Tape Nat := sortTape
  heads : List Nat := []
  bases : List Nat := []
  pairBases : List Nat := []

namespace Index

/-- Buckets of cells. The last bucket holds unused slots only and does not
count. -/
def validBuckets (x : Index) : Nat :=
  x.bucketCount - 1

/-- Forgets buckets and pairs. -/
def discardBuckets (x : Index) : Index :=
  { x with
    bucketCount := 0
    pairCount := 0
    bucketKeys := x.bucketKeys.clear
    bucketSizes := x.bucketSizes.clear
    bucketOffsets := x.bucketOffsets.clear
    pairSizes := x.pairSizes.clear
    pairOffsets := x.pairOffsets.clear }

/-- Falls back to a stage, and forgets what later stages have made. -/
def reopen (x : Index) (stage : Stage) : Index :=
  { x.discardBuckets with stage }

/-- Number of records outside the bucket of unused slots. -/
def recordCount (x : Index) : Except Fault Nat :=
  if x.validBuckets = 0 then .ok 0
  else
    match x.bucketOffsets.get? x.validBuckets with
    | some offset => .ok offset
    | none => .error (.outOfRange x.validBuckets x.bucketOffsets.length)

/-- Part of a list that has to lie inside it. -/
def slice {α : Type} (xs : List α) (start count : Nat) : Except Fault (List α) :=
  if start + count ≤ xs.length then .ok ((xs.drop start).take count)
  else .error (.outOfRange (start + count) xs.length)

/-- The records of all objects, bucket by bucket. -/
def records (x : Index) : Except Fault (List Entry) := do
  slice x.sortedEntries.contents 0 (← x.recordCount)

def recordsText (x : Index) : Except Fault String := do
  return String.join ((Entry.header :: (← x.records).map Entry.text).map (· ++ "\n"))

def summary (x : Index) : Except Fault Summary := do
  let sizes ← slice x.bucketSizes.contents 0 x.validBuckets
  let records ← x.records
  return {
    objects := x.objectCount
    slots := x.entries.length
    records := records.length
    phantoms := (records.filter Entry.isPhantom).length
    buckets := x.bucketCount
    validBuckets := x.validBuckets
    largestBucket := sizes.foldl max 0
    pairs := x.pairCount
    cellSize := x.grid.cellSize }

end Index

/-- An index in use, with the list of pairs that it fills, its counters and
its journal. -/
structure Session where
  index : Index := {}
  pairs : Tape Pair := .empty "collision pairs"
  meter : Meter := {}
  journal : Journal := {}

/-- Work on a session. What was done before a failure stays done. -/
abbrev Action := ExceptT Failure (StateM Session)

namespace Action

variable {α : Type}

def ofFault (r : Except Fault α) : Action α :=
  match r with
  | .ok a => pure a
  | .error f => throw (.faulty f)

def ofRefusal (r : Except Refusal α) : Action α :=
  match r with
  | .ok a => pure a
  | .error e => throw (.refused e)

def refuse (r : Refusal) : Action α :=
  throw (.refused r)

/-- Counted work, on the counters of the session. -/
def metered (work : Metered α) : Action α := fun s =>
  let (result, meter) := work s.meter
  (result, { s with meter })

def index : Action Index :=
  return (← get).index

def onIndex (change : Index → Index) : Action Unit :=
  modify fun s => { s with index := change s.index }

def note (event : Event) : Action Unit :=
  modify fun s => { s with journal := s.journal.note event }

end Action

end ContactGrid
