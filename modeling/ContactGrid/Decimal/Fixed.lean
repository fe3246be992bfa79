import ContactGrid.Decimal.Shortest

namespace ContactGrid

/-- The integer nearest to a fraction; halfway, the even one. -/
def roundHalfEven (numerator denominator : Nat) : Nat :=
  let down := numerator / denominator
  let twice := 2 * (numerator % denominator)
  if twice < denominator then down
  else if denominator < twice then down + 1
  else down + down % 2

namespace Dyadic

/-- The exact value rounded to a fixed number of places. The sign stays,
also on a zero. -/
def fixedText (places : Nat) : Dyadic → String
  | .undefined => "NaN"
  | .infinite negative => signText negative ++ "inf"
  | .finite negative m q =>
    let value := fraction m q
    let unit := Nat.pow 10 places
    let scaled := roundHalfEven (value.1 * unit) value.2
    let whole := toString (scaled / unit)
    let rest := toString (scaled % unit)
    if places = 0 then signText negative ++ whole
    else signText negative ++ whole ++ "." ++ Decimal.zeros (places - rest.length) ++ rest

end Dyadic

def real32Fixed (places : Nat) (x : Float32) : String :=
  (Dyadic.ofFloat32 x).fixedText places

def real64Fixed (places : Nat) (x : Float) : String :=
  (Dyadic.ofFloat x).fixedText places

/-- Blanks in front, up to a least width. -/
def alignRight (width : Nat) (text : String) : String :=
  String.ofList (List.replicate (width - text.length) ' ') ++ text

def alignLeft (width : Nat) (text : String) : String :=
  text ++ String.ofList (List.replicate (width - text.length) ' ')

end ContactGrid
