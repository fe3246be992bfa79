import ContactGrid.Audit
import ContactGrid.Bench.Scatter
import ContactGrid.Index.Call
import ContactGrid.StageTimes

namespace ContactGrid.Bench

/-- What a benchmark puts out, by meaning. Everything that holds a measured
time is a case of its own. -/
inductive Output where
  | line (text : String)
  | scattered (time : Duration)
  | started (round rounds : Nat)
  | finished (time : Duration)
  | timed (count : Nat) (times : List Duration)
  | stages (report : String)
  | reference (time : Duration) (report : Report)
  | failed (message : String)

/-- What a benchmark needs: a clock that shows nanoseconds, and a place to
put its output. -/
structure Host (m : Type → Type) where
  now : m Nat
  put : Output → m Unit

/-- A session that is used for all rounds, and the times of its last run. -/
structure Rig where
  session : Session := {}
  times : StageTimes := .zero

section

variable {m : Type → Type} [Monad m]

/-- Work on a rig. What was done before a failure stays done. -/
abbrev Round (m : Type → Type) := ExceptT Failure (StateT Rig m)

def act (work : Action Unit) : Round m Unit := do
  let rig ← get
  let (result, session) := work.run.run rig.session
  set { rig with session }
  match result with
  | .ok _ => pure ()
  | .error e => throw e

/-- Takes the time of a stage; a stage that fails has none. -/
def timed (host : Host m) (stage : TimedStage) (work : Action Unit) : Round m Unit := do
  let start ← host.now
  act work
  let stop ← host.now
  modify fun rig => { rig with times := rig.times.set stage ⟨stop - start⟩ }

/-- Builds the index and lists its pairs, stage by stage. -/
def round (host : Host m) (memory : Memory) (plan : Plan) (source : Source) : Round m Unit := do
  act (plan.run memory)
  modify fun rig => { rig with times := .zero }
  act (Index.bind memory source)
  timed host .sizing Index.sizeCells
  timed host .filling (Index.fill memory)
  timed host .sorting (Index.sort memory)
  timed host .grouping (Index.group memory)
  timed host .listing (Index.listPairs memory)

def Options.plan (o : Options) : Plan where
  origin := some ⟨0, 0, 0⟩
  hash := some (if o.morton then .morton else .shift)
  cellSize := some (o.cellSize.getD 0)

/-- So many more rounds, after those whose times are known. Returns all
times, last one first, or the failure of the first round that fails. -/
def rounds (host : Host m) (memory : Memory) (o : Options) (source : Source) :
    Nat → List Duration → Rig → m (Except Failure (List Duration) × Rig)
  | 0, times, rig => pure (.ok times, rig)
  | left + 1, times, rig => do
    if 1 < o.rounds then host.put (.started (o.rounds - left) o.rounds)
    let fresh := { rig with session := { rig.session with meter := {} } }
    let start ← host.now
    let (result, rig) ← ((round host memory o.plan source).run).run fresh
    let stop ← host.now
    match result with
    | .error e => return (.error e, rig)
    | .ok _ =>
      let time : Duration := ⟨stop - start⟩
      if 1 < o.rounds then host.put (.finished time)
      rounds host memory o source left (time :: times) rig

/-- Above this many spheres, the test of all pairs takes too long. -/
def auditLimit : Nat := 50000

def rule : String :=
  String.ofList (List.replicate 60 '=')

def failureText : Failure → String
  | .refused reason => reason.message
  | .faulty _ => "internal fault"

/-- The pairs, counts and launches of the last round. -/
def summarize (host : Host m) (rig : Rig) : m Unit := do
  let s := rig.session
  host.put (.line s!"  pairs:     {alignRight 8 (toString s.pairs.length)}")
  match s.index.summary with
  | .ok summary => host.put (.line s!"  stats:     {summary.text}")
  | .error _ => pure ()
  host.put (.line (s!"  launches:  {s.meter.light} light, {s.meter.heavy} heavy, " ++
    s!"{s.meter.readbacks} read-backs"))

/-- Checks the listed pairs against the test of all pairs, if that is asked
for. Returns whether they are right. -/
def check (host : Host m) (o : Options) (spheres : List (Sphere Float32)) (rig : Rig) : m Bool := do
  if !o.validate then return true
  if auditLimit < spheres.length then
    host.put (.line s!"  validation skipped (n > {countText auditLimit})")
    return true
  let start ← host.now
  let report ← pure (audit spheres rig.session.pairs.contents)
  let stop ← host.now
  host.put (.reference ⟨stop - start⟩ report)
  return report.isValid

/-- The benchmark of one size. Returns the rig for the next size, or nothing
after a failure. -/
def benchSize (host : Host m) (memory : Memory) (keys : Bool) (o : Options) (rig : Rig) (n : Nat) :
    m (Option Rig) := do
  host.put (.line "")
  host.put (.line rule)
  host.put (.line s!"Benchmarking n = {countText n}")
  host.put (.line rule)
  let start ← host.now
  let spheres ← pure (scatter n o)
  let stop ← host.now
  host.put (.scattered ⟨stop - start⟩)
  if !memory.grants "iteration times" o.rounds then
    host.put (.failed "capacity overflow")
    return none
  let (result, rig) ← rounds host memory o (.ofList spheres) (max o.rounds 1) [] rig
  match result with
  | .error e =>
    host.put (.failed s!"broad phase failed: {failureText e}")
    return none
  | .ok times =>
    host.put (.timed n times.reverse)
    summarize host rig
    match rig.times.report n keys with
    | .ok report => host.put (.stages report)
    | .error _ => pure ()
    return if ← check host o spheres rig then some rig else none

def benchSizes (host : Host m) (memory : Memory) (keys : Bool) (o : Options) : Rig → List Nat → m Bool
  | _, [] => pure true
  | rig, n :: rest => do
    match ← benchSize host memory keys o rig n with
    | some rig => benchSizes host memory keys o rig rest
    | none => return false

def defaultSizes : List Nat := [100000]

def sizesText (sizes : List Nat) : String :=
  "[" ++ ", ".intercalate (sizes.map fun n => "\"" ++ countText n ++ "\"") ++ "]"

def title (o : Options) (sizes : List Nat) : List String :=
  ["sphere-broadphase Benchmark", "===========================", "", "Configuration:",
    s!"  seed = {o.seed}",
    "  distribution = " ++ (if o.clustered then "clustered" else "uniform"),
    s!"  target contacts = {real32Text o.contacts}",
    s!"  radius spread = {real32Text o.radiusSpread}",
    s!"  sizes = {sizesText sizes}"] ++
    (if 1 < o.rounds then [s!"  repeat = {o.rounds}"] else []) ++
    ["  timing = enabled (per-stage timing will be printed)"]

/-- Benchmarks every size. Returns whether all went well. -/
def run (host : Host m) (memory : Memory) (keys : Bool) (o : Options) : m Bool := do
  let sizes := if o.sizes.isEmpty then defaultSizes else o.sizes
  (title o sizes).forM fun text => host.put (.line text)
  benchSizes host memory keys o {} sizes

end

end ContactGrid.Bench
