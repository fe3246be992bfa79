import ContactGrid.Decimal.Shortest

namespace ContactGrid

/-- Settings and inputs that the caller has to mend. -/
inductive SettingError where
  | unusableCellSize (size : Float32)
  | missingOrigin
  | unboundedOrigin
  | noCellSizeFrom (maxRadius : Float32)
  | unusableRadius (object : Nat) (radius : Float32)
  deriving DecidableEq

def SettingError.message : SettingError → String
  | .unusableCellSize size => s!"cell size must be positive and finite, got {real32Text size}"
  | .missingOrigin => "spatial hash origin was not configured"
  | .unboundedOrigin => "spatial hash origin must be finite"
  | .noCellSizeFrom maxRadius => s!"cannot derive a cell size from max radius {real32Text maxRadius}"
  | .unusableRadius object radius => s!"sphere {object} has invalid radius {real32Text radius}"

/-- Reasons for which a call is refused. -/
inductive Refusal where
  | setting (error : SettingError)
  | capacity (requested : Nat) (what : String)
  | outOfOrder (expected found : String)
  deriving DecidableEq

def Refusal.message : Refusal → String
  | .setting error => s!"configuration error: {error.message}"
  | .capacity requested what => s!"failed to allocate {requested} elements for {what}"
  | .outOfOrder expected found => s!"pipeline stage `{found}` called before `{expected}`"

/-- Steps that no caller is meant to reach. -/
inductive Fault where
  | outOfRange (position length : Nat)
  | overflow
  | emptyPieces
  | broken (assertion : String)
  deriving DecidableEq

inductive Failure where
  | refused (reason : Refusal)
  | faulty (fault : Fault)
  deriving DecidableEq

namespace Fault

/-- Goes on only if the assertion holds. -/
def check (holds : Bool) (assertion : String) : Except Fault Unit :=
  if holds then .ok () else .error (.broken assertion)

/-- Reads one element of an array. -/
def fetch {α : Type} (xs : Array α) (i : Nat) : Except Fault α :=
  match xs[i]? with
  | some x => .ok x
  | none => .error (.outOfRange i xs.size)

/-- Addition of words that have to stay below `limit`. -/
def add (limit a b : Nat) : Except Fault Nat :=
  if a + b < limit then .ok (a + b) else .error .overflow

/-- Subtraction of words, which stops short of negative numbers. -/
def sub (a b : Nat) : Except Fault Nat :=
  if b ≤ a then .ok (a - b) else .error .overflow

end Fault

end ContactGrid
