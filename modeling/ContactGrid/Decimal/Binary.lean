namespace ContactGrid

open Float.Model

/-- A floating-point number taken apart: one of the special values, or a
sign with the magnitude `m * 2 ^ q`. Zero is `finite negative 0 0`. -/
inductive Dyadic where
  | undefined
  | infinite (negative : Bool)
  | finite (negative : Bool) (m : Nat) (q : Int)
  deriving DecidableEq

namespace Dyadic

def isNegative : UnpackedFloat.Sign → Bool
  | .positive => false
  | .negative => true

def ofUnpacked : UnpackedFloat → Dyadic
  | .notANumber => .undefined
  | .infinity sign => .infinite (isNegative sign)
  | .zero sign => .finite (isNegative sign) 0 0
  | .finite sign m q _ => .finite (isNegative sign) m q

def ofFloat32 (x : Float32) : Dyadic :=
  ofUnpacked x.toModel.unpack

def ofFloat (x : Float) : Dyadic :=
  ofUnpacked x.toModel.unpack

/-- Numerator and denominator of the magnitude `m * 2 ^ q`. -/
def fraction (m : Nat) (q : Int) : Nat × Nat :=
  if 0 ≤ q then (m * Nat.pow 2 q.toNat, 1) else (m, Nat.pow 2 (-q).toNat)

/-- The greatest integer that does not exceed `m * 2 ^ q`. -/
def floor (m : Int) (q : Int) : Int :=
  if 0 ≤ q then m * Nat.pow 2 q.toNat else m / Nat.pow 2 (-q).toNat

end Dyadic

end ContactGrid
