import ContactGrid.Pair
import ContactGrid.Sphere
import Std.Data.HashSet.Basic

namespace ContactGrid

/-- Every overlapping pair, found by testing each sphere with all that
follow it. -/
def overlappingPairs (spheres : List (Sphere Float32)) : List Pair :=
  spheres.zipIdx.flatMap fun (s, i) =>
    ((spheres.drop (i + 1)).zipIdx (i + 1)).filterMap fun (t, j) =>
      if s.overlaps t then some ⟨i, j⟩ else none

deriving instance Hashable for Pair

/-- Elements of a list with what follows each of them. -/
def withNext (pairs : List Pair) : List (Pair × Option Pair) :=
  pairs.zip (pairs.tail.map some ++ [none])

/-- Each element of a sorted list once. -/
def distinct (pairs : List Pair) : List Pair :=
  (withNext pairs).filterMap fun (p, next) => if next = some p then none else some p

/-- Elements of a sorted list that equal the one behind them. -/
def repeated (pairs : List Pair) : List Pair :=
  (withNext pairs).filterMap fun (p, next) => if next = some p then some p else none

/-- How a reported list of pairs differs from the expected one. -/
structure Report where
  objects : Nat
  expected : Nat
  reported : Nat
  missing : List Pair
  unexpected : List Pair
  duplicates : List Pair
  misordered : Nat

/-- Compares the pairs without regard to the order of the two numbers. A
pair of equal numbers is never expected; numbers in the wrong order are
counted apart. -/
def comparePairs (objects : Nat) (reported expected : List Pair) : Report :=
  let seen := Pair.sort (reported.map Pair.normalized)
  let wanted := distinct (Pair.sort (expected.map Pair.normalized))
  let seenSet := Std.HashSet.ofList seen
  let wantedSet := Std.HashSet.ofList wanted
  { objects
    expected := wanted.length
    reported := reported.length
    missing := wanted.filter fun p => !seenSet.contains p
    unexpected := (distinct seen).filter fun p => p.a = p.b || !wantedSet.contains p
    duplicates := distinct (repeated seen)
    misordered := (reported.filter fun p => p.b ≤ p.a).length }

/-- Compares reported pairs with the overlapping pairs of the spheres. -/
def audit (spheres : List (Sphere Float32)) (reported : List Pair) : Report :=
  comparePairs spheres.length reported (overlappingPairs spheres)

namespace Report

def isValid (r : Report) : Bool :=
  r.missing.isEmpty && r.unexpected.isEmpty && r.duplicates.isEmpty && r.misordered = 0

/-- The first four of some pairs. -/
def preview (pairs : List Pair) : String :=
  let shown := ", ".intercalate ((pairs.take 4).map Pair.text)
  "[" ++ shown ++ (if 4 < pairs.length then ", ..." else "") ++ "]"

def issue (pairs : List Pair) (what : String) : List String :=
  if pairs.isEmpty then [] else [s!"{pairs.length} {what} {preview pairs}"]

def issues (r : Report) : List String :=
  issue r.missing "missing" ++ issue r.unexpected "unexpected" ++ issue r.duplicates "duplicated" ++
    (if r.misordered = 0 then [] else [s!"{r.misordered} with a >= b"])

def verdict (r : Report) : String :=
  if r.isValid then "Exact" else ", ".intercalate r.issues

def text (r : Report) : String :=
  "ValidationReport \x7b " ++ s!"N={r.objects}, expected={r.expected}, reported={r.reported}, " ++
    r.verdict ++ " \x7d"

end Report

end ContactGrid
