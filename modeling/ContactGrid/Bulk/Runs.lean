import ContactGrid.Meter
import ContactGrid.Word

namespace ContactGrid

/-- Positions at which runs of equal keys start. -/
def runHeads (keys : Array Nat) : List Nat :=
  (List.range keys.size).filter fun i => i = 0 || keys[i]? != keys[i - 1]?

/-- What a finished encoding leaves: positions of the heads, the two
outputs, and the number of runs. -/
structure RunEncoding where
  heads : List Nat
  unique : List Nat
  counts : List Nat
  runs : Nat

/-- Collapses runs of equal keys. The key and the length of run `r` are
written at position `r` of the two outputs, which are at least as long as
the input; what lies behind the last run stays. Heads found earlier are
forgotten. Positions and lengths are kept as words of 32 bits. The caller
waits for the number of runs. -/
def encodeRuns (_heads keys unique counts : List Nat) : Metered RunEncoding := do
  let n := keys.length
  Metered.ofFault (Fault.check (n ≤ unique.length && n ≤ counts.length) "outputs hold every run")
  if n ≠ 0 then Metered.launch .light
  let keyAt := keys.toArray
  let heads := (runHeads keyAt).map (· % limit32)
  let runs := heads.length
  let headAt := heads.toArray
  if runs ≠ 0 then Metered.launch .light
  let found ← Metered.ofFault (Metered.numbered
    (fun r _ => do Fault.fetch keyAt (← Fault.fetch headAt r)) (unique.take runs))
  let lengths ← Metered.ofFault (Metered.numbered
    (fun r _ => (· % limit32) <$> do Fault.sub (headAt.getD (r + 1) n) (← Fault.fetch headAt r))
    (counts.take runs))
  Metered.readBack
    { heads
      unique := found ++ unique.drop runs
      counts := lengths ++ counts.drop runs
      runs }

end ContactGrid
