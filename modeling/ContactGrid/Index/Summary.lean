import ContactGrid.Decimal.Fixed

namespace ContactGrid

/-- Counts that sum up the last run of an index. -/
structure Summary where
  objects : Nat := 0
  slots : Nat := 0
  records : Nat := 0
  phantoms : Nat := 0
  buckets : Nat := 0
  validBuckets : Nat := 0
  largestBucket : Nat := 0
  pairs : Nat := 0
  cellSize : Float32 := 0

def Summary.text (s : Summary) : String :=
  s!"objects={s.objects} cell_size={real32Fixed 4 s.cellSize} records={s.records} " ++
    s!"(phantom {s.phantoms}) slots={s.slots} buckets={s.validBuckets} largest={s.largestBucket} " ++
    s!"pairs={s.pairs}"

end ContactGrid
