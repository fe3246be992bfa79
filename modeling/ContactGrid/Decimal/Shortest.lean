import ContactGrid.Decimal.Binary

namespace ContactGrid

/-- The decimal number `coefficient * 10 ^ exponent`. -/
structure Decimal where
  coefficient : Nat
  exponent : Int
  deriving DecidableEq

namespace Decimal

def zeros (n : Nat) : String :=
  String.ofList (List.replicate n '0')

/-- Digits with a point where one is needed, never a power of ten. -/
def positional (d : Decimal) : String :=
  let digits := toString d.coefficient
  if 0 ≤ d.exponent then digits ++ zeros d.exponent.toNat
  else
    let places := (-d.exponent).toNat
    if places < digits.length then
      let whole := digits.length - places
      String.ofList (digits.toList.take whole) ++ "." ++ String.ofList (digits.toList.drop whole)
    else "0." ++ zeros (places - digits.length) ++ digits

end Decimal

/-- The positive numbers that round to one floating-point number, with that
number inside. All three are numerators over one denominator; `closed` says
whether the two ends belong. -/
structure RoundingInterval where
  low : Nat
  value : Nat
  high : Nat
  denominator : Nat
  closed : Bool

namespace RoundingInterval

/-- The interval around `m * 2 ^ q`. Its ends lie half a gap away; below a
power of two, the gap is half as wide. Ends round to the even neighbour, so
they belong to `m` when it is even. -/
def around (smallest : Int) (power : Nat) (m : Nat) (q : Int) : RoundingInterval :=
  let lower := if m = power ∧ smallest < q then 4 * m - 1 else 4 * m - 2
  let scale := Dyadic.fraction 1 (q - 2)
  { low := lower * scale.1
    value := 4 * m * scale.1
    high := (4 * m + 2) * scale.1
    denominator := scale.2
    closed := m % 2 = 0 }

/-- Numerator and denominator are scaled so that the grid of multiples of
`10 ^ k` becomes the grid of multiples of the denominator. -/
def onGrid (i : RoundingInterval) (k : Int) : RoundingInterval :=
  if 0 ≤ k then { i with denominator := i.denominator * Nat.pow 10 k.toNat }
  else
    let p := Nat.pow 10 (-k).toNat
    { i with low := i.low * p, value := i.value * p, high := i.high * p }

def holds (i : RoundingInterval) (c : Nat) : Bool :=
  let x := c * i.denominator
  if i.closed then i.low ≤ x && x ≤ i.high else i.low < x && x < i.high

/-- The multiple of the denominator nearest to the value, among its two
neighbours that lie in the interval. A tie goes up. -/
def nearest? (i : RoundingInterval) : Option Nat :=
  let down := i.value / i.denominator
  match i.holds down, i.holds (down + 1) with
  | false, false => none
  | true, false => some down
  | false, true => some (down + 1)
  | true, true =>
    if 2 * (i.value % i.denominator) < i.denominator then some down else some (down + 1)

/-- The first grid that meets the interval, coarsest first, starting with
multiples of `10 ^ k`. -/
def shortestFrom (i : RoundingInterval) : Nat → Int → Decimal
  | 0, k => ⟨i.value / i.denominator, k⟩
  | fuel + 1, k =>
    match (i.onGrid k).nearest? with
    | some c => ⟨c, k⟩
    | none => i.shortestFrom fuel (k - 1)

/-- The decimal number with the fewest digits in the interval, and the
nearest one to the value among those. Grids coarser than the value's own
leading digit are skipped but for one. -/
def shortest (i : RoundingInterval) : Decimal :=
  let whole := (toString (i.value / i.denominator)).length
  i.shortestFrom (whole + i.denominator.log2 + 2) whole

end RoundingInterval

def signText (negative : Bool) : String :=
  if negative then "-" else ""

namespace Dyadic

/-- The fewest digits that read back as the same number, in positional
notation. -/
def shortestText (smallest : Int) (power : Nat) : Dyadic → String
  | .undefined => "NaN"
  | .infinite negative => signText negative ++ "inf"
  | .finite negative m q =>
    if m = 0 then signText negative ++ "0"
    else signText negative ++ (RoundingInterval.around smallest power m q).shortest.positional

end Dyadic

/-- Single precision has 24 digits and no exponent below -149. -/
def real32Text (x : Float32) : String :=
  (Dyadic.ofFloat32 x).shortestText (-149) (Nat.pow 2 23)

end ContactGrid
