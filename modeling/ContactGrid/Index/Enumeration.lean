import ContactGrid.Index.Build

namespace ContactGrid

namespace Entry

/-- A cell of a block, if its coordinates can be held. -/
def checkedCellOf (e : Entry) (q : Nat) : Except Fault Cell :=
  if (e.cellOf q).all inSignedWord then .ok (e.cellOf q) else .error .overflow

/-- Whether another cell owns the pair of two records of one cell, found out
step by step. -/
def checkedOwnedElsewhere (e f : Entry) : Except Fault Bool := do
  Fault.check (e.cell = f.cell) "records of a pair share their cell"
  (sharedBelow e f).anyM fun q => return (← e.checkedCellOf q) = (← f.checkedCellOf q)

end Entry

namespace Index

/-- Tape contents that enumeration reads. -/
structure Buckets where
  entries : Array Entry
  offsets : Array Nat
  sizes : Array Nat
  spheres : Array (Sphere Float32)

def buckets (x : Index) : Buckets where
  entries := x.sortedEntries.contents.toArray
  offsets := x.bucketOffsets.contents.toArray
  sizes := x.bucketSizes.contents.toArray
  spheres := x.spheres.contents.toArray

/-- The records of bucket `b`. -/
def Buckets.bucket (s : Buckets) (b : Nat) : Except Fault (List Entry) := do
  let start ← Fault.fetch s.offsets b
  let stop := start + (← Fault.fetch s.sizes b)
  if stop ≤ s.entries.size then return (s.entries.extract start stop).toList
  else throw (.outOfRange stop s.entries.size)

variable {σ : Type}

/-- Hands the pair of two records of a bucket to `accept` if their cell owns
the pair and the spheres overlap. Records of different cells meet in a
bucket by chance and never pair. -/
def meet (spheres : Array (Sphere Float32)) (accept : σ → Pair → Except Fault σ) (e : Entry)
    (s : Sphere Float32) (state : σ) (f : Entry) : Except Fault σ := do
  if e.cell ≠ f.cell then return state
  if ← e.checkedOwnedElsewhere f then return state
  Fault.check (e.object < f.object) "records of a cell are in the order of objects"
  if s.overlaps (← Fault.fetch spheres f.object) then accept state ⟨e.object, f.object⟩
  else return state

/-- Hands the pairs that a bucket owns to `accept`, in the order of its
records. -/
def enumerate (spheres : Array (Sphere Float32)) (accept : σ → Pair → Except Fault σ) :
    List Entry → σ → Except Fault σ
  | [], state => .ok state
  | e :: rest, state => do
    Fault.check (!e.isSentinel) "valid buckets hold no unused slot"
    let s ← Fault.fetch spheres e.object
    enumerate spheres accept rest (← rest.foldlM (meet spheres accept e s) state)

/-- Number of pairs that bucket `b` owns. -/
def Buckets.count (s : Buckets) (b : Nat) : Except Fault Nat := do
  enumerate s.spheres (fun count _ => Fault.add limit64 count 1) (← s.bucket b) 0

/-- Writes a pair at the next free place. -/
def emit (state : Nat × List Pair) (pair : Pair) : Except Fault (Nat × List Pair) :=
  if state.1 < state.2.length then .ok (state.1 + 1, state.2.set state.1 pair)
  else .error (.broken "a bucket has no more pairs than it counted")

/-- Writes the pairs that bucket `b` owns into its part of the list. -/
def Buckets.emit (s : Buckets) (b : Nat) (part : List Pair) : Except Fault (List Pair) := do
  let (written, part) ← enumerate s.spheres Index.emit (← s.bucket b) (0, part)
  Fault.check (written = part.length) "a bucket has as many pairs as it counted"
  return part

/-- Parts cut off so far, how many elements they took, and the rest. -/
structure Cut (α : Type) where
  parts : Array (List α)
  consumed : Nat
  rest : List α

/-- Cuts off the next part, which has to start where the last one ended. -/
def Cut.next {α : Type} (c : Cut α) (sizeAndOffset : Nat × Nat) : Except Fault (Cut α) := do
  let (size, offset) := sizeAndOffset
  Fault.check (offset = c.consumed) "a part starts where the last one ended"
  if c.rest.length < size then throw (.outOfRange size c.rest.length)
  return ⟨c.parts.push (c.rest.take size), c.consumed + size, c.rest.drop size⟩

/-- Cuts a list into parts of given sizes that start at given offsets and
leave nothing over. -/
def cutParts {α : Type} (plan : List (Nat × Nat)) (list : List α) : Except Fault (List (List α)) := do
  let c ← plan.foldlM Cut.next ⟨#[], 0, list⟩
  Fault.check c.rest.isEmpty "the parts use up the list"
  return c.parts.toList

/-- Counts the pairs of every bucket and adds them up. Returns the total. -/
def countPairs (memory : Memory) (valid : Nat) : Action Nat := do
  let bucketCount := (← Action.index).bucketCount
  let pairSizes ← Action.ofRefusal ((← Action.index).pairSizes.resize memory bucketCount)
  Action.onIndex fun x => { x with pairSizes }
  let pairOffsets ← Action.ofRefusal ((← Action.index).pairOffsets.resize memory bucketCount)
  Action.onIndex fun x => { x with pairOffsets }
  let buckets := (← Action.index).buckets
  let sizes ← Action.ofFault (slice pairSizes.contents 0 valid)
  let counted ← Action.metered (Metered.eachElement .heavy (fun b _ => buckets.count b) sizes)
  let pairSizes ← Action.ofFault ((pairSizes.write counted).set valid 0)
  Action.onIndex fun x => { x with pairSizes }
  let x ← Action.index
  let (pairBases, offsets) ← Action.metered (exclusiveSums limit64 x.pairBases pairSizes.contents
    pairOffsets.contents)
  Action.onIndex fun x => { x with pairBases, pairOffsets := x.pairOffsets.write offsets }
  Action.metered (Metered.readCell (pairOffsets.write offsets) valid)

/-- Writes every bucket's pairs into its own part of the list. -/
def emitPairs (memory : Memory) (valid total : Nat) : Action Unit := do
  let pairs ← Action.ofRefusal ((← get).pairs.resize memory total)
  modify fun s => { s with pairs }
  let x ← Action.index
  let plan := (x.pairSizes.contents.take valid).zip x.pairOffsets.contents
  let blank ← Action.ofFault (cutParts plan pairs.contents)
  let buckets := x.buckets
  let written ← Action.metered (Metered.eachElement .heavy buckets.emit blank)
  modify fun s => { s with pairs := s.pairs.write written.flatten }

/-- Fills the list of pairs: every overlapping pair once, grouped by the
bucket that owns it. -/
def listPairs (memory : Memory) : Action Unit := do
  requireStage .grouped "create_collision_pair_list"
  Action.onIndex fun x =>
    { x with pairCount := 0, pairSizes := x.pairSizes.clear, pairOffsets := x.pairOffsets.clear }
  let valid := (← Action.index).validBuckets
  if valid = 0 then modify fun s => { s with pairs := s.pairs.clear }
  else
    let total ← countPairs memory valid
    emitPairs memory valid total
    Action.onIndex fun x => { x with pairCount := total }
    Action.note (.listed total valid)

/-- Hands every overlapping pair to `visit` without making a list. -/
def visitPairs (visit : σ → Pair → σ) (start : σ) : Action σ := do
  requireStage .grouped "for_each_pair"
  let x ← Action.index
  let buckets := x.buckets
  Action.metered (Metered.eachIndex .heavy x.validBuckets
    (fun b state => do
      enumerate buckets.spheres (fun state pair => return visit state pair) (← buckets.bucket b) state)
    start)

end Index

end ContactGrid
