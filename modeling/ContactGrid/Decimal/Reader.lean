namespace ContactGrid

inductive NumeralError where
  | empty
  | malformed
  deriving DecidableEq

def NumeralError.message : NumeralError → String
  | .empty => "cannot parse float from empty string"
  | .malformed => "invalid float literal"

/-- What a text that denotes a number says, before it is rounded to a
format. -/
inductive Numeral where
  | undefined
  | infinite (negative : Bool)
  | decimal (negative : Bool) (coefficient : Nat) (exponent : Int)
  deriving DecidableEq

namespace Numeral

def digitValue (c : Char) : Nat :=
  c.toNat - '0'.toNat

def digitsValue (digits : List Char) : Nat :=
  digits.foldl (fun n c => 10 * n + digitValue c) 0

/-- Splits off a sign. -/
def sign : List Char → Bool × List Char
  | '-' :: rest => (true, rest)
  | '+' :: rest => (false, rest)
  | text => (false, text)

/-- An exponent mark with at least one digit behind it, or nothing at all. -/
def exponentPart : List Char → Option Int
  | [] => some 0
  | c :: rest =>
    if c = 'e' ∨ c = 'E' then
      let (negative, digits) := sign rest
      if digits.isEmpty ∨ digits.any (!·.isDigit) then none
      else some (if negative then -(digitsValue digits : Int) else digitsValue digits)
    else none

/-- Digits with an optional point among, before or behind them, then an
optional exponent. -/
def magnitude? (text : List Char) : Option (Nat × Int) :=
  let whole := text.takeWhile Char.isDigit
  let (fraction, rest) :=
    match text.dropWhile Char.isDigit with
    | '.' :: rest => (rest.takeWhile Char.isDigit, rest.dropWhile Char.isDigit)
    | rest => ([], rest)
  if whole.isEmpty && fraction.isEmpty then none
  else (exponentPart rest).map fun e => (digitsValue (whole ++ fraction), e - fraction.length)

/-- Special values are named in any mix of cases. -/
def special? (negative : Bool) (text : List Char) : Option Numeral :=
  match String.ofList (text.map Char.toLower) with
  | "nan" => some .undefined
  | "inf" => some (.infinite negative)
  | "infinity" => some (.infinite negative)
  | _ => none

def read (text : List Char) : Except NumeralError Numeral :=
  if text.isEmpty then .error .empty
  else
    let (negative, rest) := sign text
    match magnitude? rest with
    | some (coefficient, exponent) => .ok (.decimal negative coefficient exponent)
    | none =>
      match special? negative rest with
      | some value => .ok value
      | none => .error .malformed

/-- The nearest double. -/
def toFloat : Numeral → Float
  | .undefined => Float.ofBits 0x7FF8000000000000
  | .infinite negative => Float.ofBits (if negative then 0xFFF0000000000000 else 0x7FF0000000000000)
  | .decimal negative coefficient exponent =>
    let x := Float.ofScientific coefficient (exponent < 0) exponent.natAbs
    if negative then -x else x

/-- The nearest single. -/
def toFloat32 : Numeral → Float32
  | .undefined => Float32.ofBits 0x7FC00000
  | .infinite negative => Float32.ofBits (if negative then 0xFF800000 else 0x7F800000)
  | .decimal negative coefficient exponent =>
    let x := Float32.ofScientific coefficient (exponent < 0) exponent.natAbs
    if negative then -x else x

end Numeral

end ContactGrid
