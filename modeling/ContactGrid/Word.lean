namespace ContactGrid

/-- One more than the greatest word of 32 bits. -/
def limit32 : Nat := Nat.pow 2 32

/-- One more than the greatest word of 64 bits. -/
def limit64 : Nat := Nat.pow 2 64

/-- An integer as an unsigned word of 32 bits. -/
def word (i : Int) : Nat :=
  (i % limit32).toNat

/-- Whether an integer fits a signed word of 32 bits. -/
def inSignedWord (i : Int) : Bool :=
  -2147483648 ≤ i && i < 2147483648

end ContactGrid
