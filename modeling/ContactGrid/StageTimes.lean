import ContactGrid.Decimal.Fixed
import ContactGrid.Failure
import ContactGrid.Word

namespace ContactGrid

/-- Stages whose time is taken. -/
inductive TimedStage where
  | sizing
  | filling
  | sorting
  | grouping
  | listing
  deriving DecidableEq

namespace TimedStage

/-- The stages in the order in which they run. -/
def all : List TimedStage :=
  [.sizing, .filling, .sorting, .grouping, .listing]

def name : TimedStage → String
  | .sizing => "estimate_cell_size"
  | .filling => "fill_hash_cells"
  | .sorting => "sort_hash_cells"
  | .grouping => "count_collision_per_cell"
  | .listing => "create_collision_pair_list"

end TimedStage

/-- A span of time in nanoseconds. -/
structure Duration where
  nanoseconds : Nat
  deriving DecidableEq

namespace Duration

def perSecond : Nat := 1000000000

/-- Seconds are counted by words of 64 bits. -/
def limit : Nat := limit64 * perSecond

def zero : Duration := ⟨0⟩

/-- Seconds and nanoseconds together; nanoseconds may make up more seconds. -/
def of? (seconds nanoseconds : Nat) : Except Fault Duration :=
  (Fault.add limit (seconds * perSecond) nanoseconds).map Duration.mk

/-- Whole seconds and the rest are rounded each for itself. -/
def seconds (d : Duration) : Float :=
  Float.ofNat (d.nanoseconds / perSecond) + Float.ofNat (d.nanoseconds % perSecond) / 1e9

def milliseconds (d : Duration) : Float :=
  d.seconds * 1000

end Duration

/-- The time that each stage of the last run has taken. -/
structure StageTimes where
  of : TimedStage → Duration

namespace StageTimes

def zero : StageTimes := ⟨fun _ => .zero⟩

def set (t : StageTimes) (stage : TimedStage) (d : Duration) : StageTimes :=
  ⟨fun s => if s = stage then d else t.of s⟩

def total (t : StageTimes) : Except Fault Duration :=
  (TimedStage.all.foldlM (fun sum s => Fault.add Duration.limit sum (t.of s).nanoseconds) 0).map
    Duration.mk

def share (total d : Duration) : Float :=
  if total.nanoseconds = 0 then 0 else 100 * d.seconds / total.seconds

def line (total d : Duration) (stage : TimedStage) : String :=
  "  " ++ alignLeft 28 stage.name ++ alignRight 7 (real64Fixed 2 d.milliseconds) ++ "ms (" ++
    alignRight 4 (real64Fixed 1 (share total d)) ++ "%)\n"

/-- One line of keys and values, for programs to read. -/
def keyLine (t : StageTimes) (n : Nat) (total : Duration) : String :=
  s!"TIMING_KV n={n} total_ms={real64Fixed 3 total.milliseconds} " ++
    " ".intercalate (TimedStage.all.map fun s =>
      s!"{s.name}_ms={real64Fixed 3 (t.of s).milliseconds}") ++ "\n"

/-- The time of a run on `n` objects, stage by stage. -/
def report (t : StageTimes) (n : Nat) (keys : Bool) : Except Fault String := do
  let total ← t.total
  return s!"timing n={n} total={real64Fixed 1 total.milliseconds}ms\n" ++
    String.join (TimedStage.all.map fun s => line total (t.of s) s) ++
    (if keys then t.keyLine n total else "")

end StageTimes

end ContactGrid
