import ContactGrid.Bench.Options
import ContactGrid.Sphere

namespace ContactGrid.Bench

/-- A sequence of words that a seed determines. -/
abbrev Dice := StateM UInt64

/-- Steps through all words and mixes the bits of each. -/
def rollWord : Dice UInt64 := do
  let state := (← get) + 0x9E3779B97F4A7C15
  set state
  let x := (state ^^^ (state >>> 30)) * 0xBF58476D1CE4E5B9
  let y := (x ^^^ (x >>> 27)) * 0x94D049BB133111EB
  return y ^^^ (y >>> 31)

/-- A number from `low` up to `high`. -/
def roll (low high : Float32) : Dice Float32 := do
  let part := Float32.ofNat ((← rollWord) >>> 40).toNat / 16777216
  return low + (high - low) * part

def rollPoint (half : Float32) : Dice (Vec Float32) := do
  return ⟨← roll (-half) half, ← roll (-half) half, ← roll (-half) half⟩

def hubCount : Nat := 8

/-- Centers in a cube, or around a few hubs in it. -/
def rollCenters (n : Nat) (half : Float32) (clustered : Bool) : Dice (List (Vec Float32)) := do
  if clustered then
    let hubs ← (List.range hubCount).mapM fun _ => rollPoint half
    let spread := half / Float32.cbrt (Float32.ofNat hubCount)
    (List.range n).mapM fun i => do
      return hubs.getD (i % hubCount) default + (← rollPoint spread)
  else (List.range n).mapM fun _ => rollPoint half

/-- Random spheres in a cube of such a size that a sphere of mean radius
overlaps about as many others as the options ask for. -/
def scatter (n : Nat) (o : Options) : List (Sphere Float32) :=
  if n = 0 then []
  else
    let least : Float32 := 0.5
    let most := least * real32Larger o.radiusSpread 1
    let reach := least + most
    let contactVolume := (4 / 3 * 3.1415927) * (reach * reach * reach)
    let volume := Float32.ofNat n * contactVolume / real32Larger o.contacts 0.01
    let half := 0.5 * volume.cbrt
    let spheres : Dice (List (Sphere Float32)) := do
      (← rollCenters n half o.clustered).mapM fun center => do return ⟨center, ← roll least most⟩
    (spheres.run (UInt64.ofNat o.seed)).1

end ContactGrid.Bench
