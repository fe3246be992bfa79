import ContactGrid.Meter
import ContactGrid.Scalar

namespace ContactGrid

def negativeInfinity : Float32 := Float32.ofBits 0xFF800000

/-- The largest of some numbers, undefined ones left out, or negative
infinity if none is left. -/
def maximum (values : List Float32) : Float32 :=
  values.foldl real32Larger negativeInfinity

/-- The caller waits for the maximum. Nothing is launched without values. -/
def readMaximum (values : List Float32) : Metered Float32 := do
  if !values.isEmpty then Metered.launch .light
  Metered.readBack (maximum values)

end ContactGrid
