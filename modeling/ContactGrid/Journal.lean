import ContactGrid.Grid
import ContactGrid.Index.Summary

namespace ContactGrid

inductive Level where
  | error
  | warn
  | info
  | debug
  | trace
  deriving DecidableEq

namespace Level

/-- Finer levels have higher ranks. -/
def rank : Level → Nat
  | .error => 1
  | .warn => 2
  | .info => 3
  | .debug => 4
  | .trace => 5

def name : Level → String
  | .error => "ERROR"
  | .warn => "WARN"
  | .info => "INFO"
  | .debug => "DEBUG"
  | .trace => "TRACE"

end Level

/-- What is worth a line in the journal. -/
inductive Event where
  | bound (objects : Nat)
  | undersized (size maxRadius : Float32)
  | sized (maxRadius size : Float32)
  | filled (objects slots : Nat)
  | grouped (objects buckets : Nat)
  | listed (pairs buckets : Nat)
  | answered (summary : Summary)

namespace Event

def level : Event → Level
  | .bound _ => .trace
  | .undersized _ _ => .warn
  | .sized _ _ => .trace
  | .filled _ _ => .trace
  | .grouped _ _ => .debug
  | .listed _ _ => .debug
  | .answered _ => .debug

def text : Event → String
  | .bound objects => s!"bind: {objects} objects"
  | .undersized size maxRadius =>
    s!"cell size {real32Text size} is below {real32Text leastCellRatio}x the largest radius " ++
      s!"{real32Text maxRadius}; overlaps may be missed"
  | .sized maxRadius size =>
    s!"estimate_cell_size: max radius {real32Text maxRadius} -> cell size {real32Text size}"
  | .filled objects slots => s!"fill_hash_cells: {objects} objects, {slots} slots"
  | .grouped objects buckets => s!"count_collision_per_cell: {objects} objects in {buckets} buckets"
  | .listed pairs buckets => s!"create_collision_pair_list: {pairs} pairs from {buckets} buckets"
  | .answered summary => s!"find_pairs: {summary.text}"

end Event

/-- Events up to the finest level that is let through; without such a level
nothing is noted. -/
structure Journal where
  finest : Option Level := none
  events : List Event := []

namespace Journal

def lets (j : Journal) (level : Level) : Bool :=
  match j.finest with
  | none => false
  | some finest => level.rank ≤ finest.rank

def note (j : Journal) (event : Event) : Journal :=
  if j.lets event.level then { j with events := j.events ++ [event] } else j

end Journal

end ContactGrid
