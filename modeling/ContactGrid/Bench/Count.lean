import ContactGrid.Decimal.Fixed
import ContactGrid.Decimal.Reader
import ContactGrid.Text.Lowercase

namespace ContactGrid.Bench

/-- A text that is no count, in lower case. -/
structure CountError where
  text : String
  reason : NumeralError
  deriving DecidableEq

def CountError.message (e : CountError) : String :=
  s!"Invalid number '{e.text}': {e.reason.message}"

/-- Splits off a suffix that stands for a million or a thousand. -/
def splitScale (text : List Char) : List Char × Float :=
  if text.getLast? = some 'm' then (text.dropLast, 1000000)
  else if text.getLast? = some 'k' then (text.dropLast, 1000)
  else (text, 1)

/-- Reads a count such as 100k or 1.5M. The number is rounded to a double,
so is its product with the scale, and what is left of that behind the point
is cut off. Counts out of range become the nearest one within. -/
def readCount (text : String) : Except CountError Nat :=
  let lower := lowercase text
  let (digits, scale) := splitScale lower.toList
  match Numeral.read digits with
  | .ok numeral => .ok (numeral.toFloat * scale).toUInt64.toNat
  | .error reason => .error ⟨lower, reason⟩

/-- A count in millions with one place, in whole thousands, or in full. -/
def countText (n : Nat) : String :=
  if 1000000 ≤ n then real64Fixed 1 (Float.ofNat n / 1000000) ++ "M"
  else if 1000 ≤ n then s!"{n / 1000}k"
  else s!"{n}"

/-- Counts each second. -/
def rateText (count : Nat) (milliseconds : Float) : String :=
  if Float.le milliseconds 0 then "N/A"
  else
    let rate := Float.ofNat count / (milliseconds / 1000)
    if Float.le 1000000 rate then real64Fixed 2 (rate / 1000000) ++ "M/s"
    else if Float.le 1000 rate then real64Fixed 1 (rate / 1000) ++ "k/s"
    else real64Fixed 0 rate ++ "/s"

end ContactGrid.Bench
