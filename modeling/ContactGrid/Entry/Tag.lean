namespace ContactGrid

/-- A word of four packed fields: the parity of the recorded cell, the
parity of the home cell, the set of parities recorded for the object, and
the direction of its block. -/
structure Tag where
  word : Nat
  deriving DecidableEq

namespace Tag

def pack (cell home mask direction : Nat) : Tag :=
  ⟨cell + 8 * home + 64 * mask + 16384 * direction⟩

/-- Whether each field stays within its bits. -/
def fits (cell home mask direction : Nat) : Bool :=
  cell < 8 && home < 8 && mask < 256 && direction < 8

/-- Parity of the recorded cell. -/
def cell (t : Tag) : Nat :=
  t.word % 8

/-- Parity of the home cell. -/
def home (t : Tag) : Nat :=
  t.word / 8 % 8

/-- Bit `q` says that the object is recorded in the cell of parity `q` of
its block. -/
def mask (t : Tag) : Nat :=
  t.word / 64 % 256

/-- For each axis, in the order of parity bits, whether the block extends
upward. -/
def direction (t : Tag) : Nat :=
  t.word / 16384 % 8

theorem cell_pack {cell home mask direction : Nat} (hc : cell < 8) :
    (pack cell home mask direction).cell = cell := by
  simp only [pack, Tag.cell]
  omega

theorem home_pack {cell home mask direction : Nat} (hc : cell < 8) (hh : home < 8) :
    (pack cell home mask direction).home = home := by
  simp only [pack, Tag.home]
  omega

theorem mask_pack {cell home mask direction : Nat} (hc : cell < 8) (hh : home < 8) (hm : mask < 256) :
    (pack cell home mask direction).mask = mask := by
  simp only [pack, Tag.mask]
  omega

theorem direction_pack {cell home mask direction : Nat} (hc : cell < 8) (hh : home < 8) (hm : mask < 256)
    (hd : direction < 8) : (pack cell home mask direction).direction = direction := by
  simp only [pack, Tag.direction]
  omega

end Tag

/-- The low binary digits of a number, all of them written. -/
def binaryText : Nat → Nat → String
  | 0, _ => ""
  | digits + 1, n => binaryText digits (n / 2) ++ (if n % 2 = 0 then "0" else "1")

namespace Tag

def fields (t : Tag) : List (String × String) :=
  [("pass_type", toString t.cell), ("home_type", toString t.home),
    ("overlap_mask", "0b" ++ binaryText 8 t.mask), ("block_dir", "0b" ++ binaryText 3 t.direction)]

/-- The fields on one line. -/
def inlineText (t : Tag) : String :=
  "ControlBits \x7b " ++ ", ".intercalate (t.fields.map fun f => s!"{f.1}: {f.2}") ++ " \x7d"

/-- The fields on lines of their own. -/
def blockText (t : Tag) : String :=
  "ControlBits \x7b\n" ++ String.join (t.fields.map fun f => s!"    {f.1}: {f.2},\n") ++ "\x7d"

end Tag

end ContactGrid
