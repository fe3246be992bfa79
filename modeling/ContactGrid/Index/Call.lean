import ContactGrid.Index.Enumeration

namespace ContactGrid

/-- Everything that a caller can ask of a session. -/
inductive Call where
  | setGroups (groups : GroupSizes)
  | setOrigin (origin : Vec Float32)
  | setHash (hash : CellHash)
  | setCellSize (size : Float32)
  | setJournal (finest : Option Level)
  | resetMeter
  | bind (source : Source)
  | sizeCells
  | fill
  | sort
  | group
  | build (source : Source)
  | listPairs
  | visitPairs

inductive Reply where
  | done
  | visited (pairs : List Pair)

namespace Call

def run (memory : Memory) : Call → Action Reply
  | .setGroups groups => do Action.onIndex fun x => { x with groups }; return .done
  | .setOrigin origin => do Action.onIndex fun x => { x with origin := some origin }; return .done
  | .setHash hash => do Action.onIndex fun x => { x with grid := { x.grid with hash } }; return .done
  | .setCellSize size => do Action.onIndex fun x => { x with requestedSize := size }; return .done
  | .setJournal finest => do
    modify fun s => { s with journal := { s.journal with finest } }
    return .done
  | .resetMeter => do modify fun s => { s with meter := {} }; return .done
  | .bind source => do Index.bind memory source; return .done
  | .sizeCells => do Index.sizeCells; return .done
  | .fill => do Index.fill memory; return .done
  | .sort => do Index.sort memory; return .done
  | .group => do Index.group memory; return .done
  | .build source => do Index.build memory source; return .done
  | .listPairs => do Index.listPairs memory; return .done
  | .visitPairs => do
    return .visited (← Index.visitPairs (fun pairs pair => pairs ++ [pair]) [])

/-- The outcome of a call, and the session that it leaves. -/
def perform (memory : Memory) (call : Call) (s : Session) : Except Failure Reply × Session :=
  (call.run memory).run.run s

end Call

/-- Sessions that calls can lead to, whatever memory each of them finds. -/
inductive Session.Reachable : Session → Prop
  | start : Reachable {}
  | next {s : Session} (memory : Memory) (call : Call) :
      Reachable s → Reachable (call.perform memory s).2

/-- Settings of one run and the spheres to build from. What is left out
stays as it is. -/
structure Plan where
  groups : Option GroupSizes := none
  origin : Option (Vec Float32) := none
  hash : Option CellHash := none
  cellSize : Option Float32 := none
  source : Option Source := none

namespace Plan

/-- The calls of a plan, in order. -/
def calls (p : Plan) : List Call :=
  (p.groups.map Call.setGroups).toList ++ (p.origin.map Call.setOrigin).toList ++
    (p.hash.map Call.setHash).toList ++ (p.cellSize.map Call.setCellSize).toList ++
    (p.source.map Call.build).toList

def run (memory : Memory) (p : Plan) : Action Unit :=
  p.calls.forM fun call => do let _ ← call.run memory

end Plan

end ContactGrid
