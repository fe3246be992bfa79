import ContactGrid.Index.Call

namespace ContactGrid

/-- Settings of a search for contacts. Without a cell size, one is derived
from the largest radius. -/
structure Config where
  cellSize : Option Float32 := none
  origin : Vec Float32 := ⟨0, 0, 0⟩
  hash : CellHash := .shift
  groups : GroupSizes := {}

/-- Every overlapping pair once and in order, with counts of the index that
found them. -/
structure Contacts where
  pairs : List Pair
  summary : Summary

def Config.plan (c : Config) (source : Source) : Plan where
  groups := some c.groups
  origin := some c.origin
  hash := some c.hash
  cellSize := some (c.cellSize.getD 0)
  source := some source

/-- Builds an index in a session, lists its pairs and sorts them. -/
def collectContacts (memory : Memory) (config : Config) (source : Source) : Action Contacts := do
  (config.plan source).run memory
  Index.listPairs memory
  let s ← get
  let summary ← Action.ofFault s.index.summary
  Action.note (.answered summary)
  return ⟨Pair.sort s.pairs.contents, summary⟩

/-- All overlapping pairs of some spheres, found in a session of their own. -/
def findContacts (memory : Memory) (finest : Option Level) (config : Config) (source : Source) :
    Except Failure Contacts × List Event :=
  let (result, s) := (collectContacts memory config source).run.run { journal := { finest } }
  (result, s.journal.events)

end ContactGrid
