import ContactGrid.Meter
import ContactGrid.Radix
import ContactGrid.Word

namespace ContactGrid

/-- Room for a sort. -/
def sortTape : Tape Nat :=
  .empty "sort permutation"

/-- Sorts values by their keys and keeps the order of equal keys. Every key
is packed into one word with its position, which takes the low 32 bits, so
that no two words are equal.

The results are written over `keysOut` and `valuesOut`, which have the
length of the input. -/
def sortByKey {α : Type} (memory : Memory) (room : Tape Nat) (keys : List Nat) (values : List α)
    (keysOut : List Nat) (valuesOut : List α) : Metered (Tape Nat × List Nat × List α) := do
  let n := keys.length
  Metered.ofFault (Fault.check
    (values.length = n && keysOut.length = n && valuesOut.length = n) "inputs and outputs have one length")
  if n < 2 then return (room, keys, values)
  if limit32 < n then throw (.refused (.capacity n sortTape.label))
  let room ← Metered.ofRefusal (room.resize memory n)
  let keyAt := keys.toArray
  let packed ← Metered.eachElement .light
    (fun i _ => (Fault.fetch keyAt i).map fun key => key * limit32 + i) room.contents
  Metered.launch .light
  let sorted := radixSort id packed
  let wordAt := sorted.toArray
  let valueAt := values.toArray
  let keysOut ← Metered.eachElement .light
    (fun i _ => (Fault.fetch wordAt i).map (· / limit32)) keysOut
  let valuesOut ← Metered.eachElement .light
    (fun i _ => do Fault.fetch valueAt ((← Fault.fetch wordAt i) % limit32)) valuesOut
  return (room.write sorted, keysOut, valuesOut)

end ContactGrid
