import ContactGrid.Meter

namespace ContactGrid

/-- Elements that one task sums. -/
def tileSize : Nat := 2048

/-- The sum of words below `limit`, added from the left. -/
def checkedSum (limit : Nat) (xs : List Nat) : Except Fault Nat :=
  xs.foldlM (Fault.add limit) 0

/-- For each element the sum of `start` and the elements before it. The last
addition is made although nothing shows its result. -/
def runningSums (limit : Nat) : Nat → List Nat → Except Fault (List Nat)
  | _, [] => .ok []
  | start, x :: xs => do
    let next ← Fault.add limit start x
    return start :: (← runningSums limit next xs)

/-- Sums of all earlier elements, for words below `limit`. Tiles are summed
for themselves, the sums of the tiles are added up, and each tile is gone
through once more from its base. Bases left by an earlier call are
forgotten, unless there is no input. Returns the bases of the tiles and the
output. -/
def exclusiveSums (limit : Nat) (oldBases input output : List Nat) : Metered (List Nat × List Nat) := do
  Metered.ofFault (Fault.check (input.length = output.length) "input and output have one length")
  if input.isEmpty then return (oldBases, output)
  Metered.launch .light
  let tiles := Metered.pieces tileSize input
  let sums ← Metered.ofFault (tiles.mapM (checkedSum limit))
  let bases ← Metered.ofFault (runningSums limit 0 sums)
  let done ← Metered.ofFault
    ((bases.zip tiles).mapM fun (base, tile) => runningSums limit base tile)
  return (bases, done.flatten)

end ContactGrid
