import ContactGrid.Bench.Run

namespace ContactGrid.Bench

def timeText (d : Duration) : String :=
  real64Fixed 1 d.milliseconds ++ "ms"

/-- The best and the mean of some times, and the rate that the best one
makes. -/
def timesText (count : Nat) (times : List Duration) : String :=
  let spans := times.map Duration.milliseconds
  let best := spans.foldl (fun x y => if y < x then y else x) (1 / 0)
  let mean := spans.foldl (· + ·) 0 / Float.ofNat spans.length
  "  time:      " ++ alignRight 8 (real64Fixed 1 best) ++ "ms best, " ++ real64Fixed 1 mean ++
    "ms mean (" ++ rateText count best ++ ")"

def display (output : Output) : IO Unit := do
  match output with
  | .line text => IO.println text
  | .scattered time => IO.println s!"Sphere generation: {timeText time}"
  | .started next rounds =>
    IO.print s!"  Iteration {next}/{rounds}... "
    (← IO.getStdout).flush
  | .finished time => IO.println (timeText time)
  | .timed count times => IO.println (timesText count times)
  | .stages report => IO.eprint report
  | .reference time report =>
    IO.println s!"  reference: {alignRight 8 (real64Fixed 1 time.milliseconds)}ms, {report.text}"
  | .failed message => IO.eprintln message

def console : Host IO :=
  ⟨IO.monoNanosNow, display⟩

end ContactGrid.Bench

open ContactGrid in
def main (arguments : List String) : IO UInt32 := do
  match Bench.Options.read arguments with
  | .error .help =>
    IO.print Bench.helpText
    return 0
  | .error (.usage problem) =>
    IO.eprintln s!"error: {problem}"
    return 2
  | .ok options =>
    let keys := (← IO.getEnv "SPHERE_BROADPHASE_TIMING_KV").isSome
    return if ← Bench.run Bench.console .machine keys options then 0 else 1
