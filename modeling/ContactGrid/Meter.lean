import ContactGrid.Tape

namespace ContactGrid

/-- Light work is cheap for each element, heavy work grows with the square
of a bucket. -/
inductive Work where
  | light
  | heavy
  deriving DecidableEq

/-- How many elements a worker takes at a time. The sizes never change a
result. -/
structure GroupSizes where
  light : Nat := 256
  heavy : Nat := 64
  deriving DecidableEq

/-- A group holds at least one element. -/
def GroupSizes.of (g : GroupSizes) (work : Work) : Nat :=
  match work with
  | .light => max g.light 1
  | .heavy => max g.heavy 1

/-- Counts of launches and of values that were waited for. -/
structure Meter where
  light : Nat := 0
  heavy : Nat := 0
  readbacks : Nat := 0
  deriving DecidableEq

namespace Meter

def launched (m : Meter) (work : Work) : Meter :=
  match work with
  | .light => { m with light := m.light + 1 }
  | .heavy => { m with heavy := m.heavy + 1 }

def waited (m : Meter) : Meter :=
  { m with readbacks := m.readbacks + 1 }

end Meter

/-- Work that is counted. What was counted before a failure stays counted. -/
abbrev Metered := ExceptT Failure (StateM Meter)

namespace Metered

variable {α σ : Type}

def ofFault (r : Except Fault α) : Metered α :=
  match r with
  | .ok a => pure a
  | .error f => throw (.faulty f)

def ofRefusal (r : Except Refusal α) : Metered α :=
  match r with
  | .ok a => pure a
  | .error e => throw (.refused e)

def launch (work : Work) : Metered Unit :=
  modify (·.launched work)

/-- Hands a value over to the caller, who waits for it. -/
def readBack (value : α) : Metered α := do
  modify Meter.waited
  pure value

/-- Waits for one cell of a tape. -/
def readCell (t : Tape α) (i : Nat) : Metered α := do
  match t.get? i with
  | some value => readBack value
  | none => throw (.faulty (.outOfRange i t.length))

/-- Runs `body` on the elements of a list in order. The body gets each
element with its position. -/
def numbered {β : Type} (body : Nat → α → Except Fault β) (data : List α) : Except Fault (List β) :=
  data.zipIdx.mapM fun (x, i) => body i x

/-- Launches one task for each element; task `i` replaces element `i`.
Nothing is launched without elements. -/
def eachElement (work : Work) (body : Nat → α → Except Fault α) (data : List α) : Metered (List α) := do
  if data.isEmpty then return data
  launch work
  ofFault (numbered body data)

/-- Consecutive pieces of `size` elements, of which the last one may be
shorter. -/
def pieces (size : Nat) (data : List α) : List (List α) :=
  let cells := data.toArray
  let count := (data.length + size - 1) / size
  (List.range count).map fun i => (cells.extract (i * size) (i * size + size)).toList

/-- Launches one task for each piece of `size` elements; task `i` replaces
piece `i`. -/
def eachPiece (work : Work) (size : Nat) (body : Nat → List α → Except Fault (List α)) (data : List α) :
    Metered (List α) := do
  if data.isEmpty then return data
  if size = 0 then throw (.faulty .emptyPieces)
  launch work
  return (← ofFault (numbered body (pieces size data))).flatten

/-- Launches `count` tasks that act on something shared. -/
def eachIndex (work : Work) (count : Nat) (body : Nat → σ → Except Fault σ) (start : σ) : Metered σ := do
  if count = 0 then return start
  launch work
  ofFault ((List.range count).foldlM (fun s i => body i s) start)

end Metered

end ContactGrid
