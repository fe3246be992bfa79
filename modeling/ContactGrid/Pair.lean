import ContactGrid.Radix

namespace ContactGrid

/-- Two objects by their numbers. -/
@[ext]
structure Pair where
  a : Nat
  b : Nat
  deriving DecidableEq

namespace Pair

instance : Inhabited Pair where
  default := ⟨0, 0⟩

/-- The same two objects with the smaller number first. -/
def normalized (p : Pair) : Pair :=
  if p.a ≤ p.b then p else ⟨p.b, p.a⟩

def contains (p : Pair) (object : Nat) : Bool :=
  p.a = object || p.b = object

def text (p : Pair) : String :=
  s!"({p.a},{p.b})"

/-- Pairs are ordered by their first number, then by their second. -/
def compare (p q : Pair) : Ordering :=
  (Ord.compare p.a q.a).then (Ord.compare p.b q.b)

/-- Pairs in order. -/
def sort (pairs : List Pair) : List Pair :=
  radixSort Pair.a (radixSort Pair.b pairs)

theorem sort_perm (pairs : List Pair) : (sort pairs).Perm pairs :=
  (radixSort_perm Pair.a _).trans (radixSort_perm Pair.b pairs)

theorem pairwise_sort (pairs : List Pair) :
    (sort pairs).Pairwise fun p q => p.a < q.a ∨ p.a = q.a ∧ p.b ≤ q.b :=
  pairwise_radixSort_of_pairwise (pairwise_radixSort Pair.b pairs) Pair.a

/-- Strictly in order: by the first numbers, then by the second ones. -/
def Before (p q : Pair) : Prop :=
  p.a < q.a ∨ p.a = q.a ∧ p.b < q.b

theorem Before.of_ne {p q : Pair} (atMost : p.a < q.a ∨ p.a = q.a ∧ p.b ≤ q.b) (differ : p ≠ q) : p.Before q := by
  rcases atMost with before | ⟨same, atMost⟩
  · exact Or.inl before
  · exact Or.inr ⟨same, Nat.lt_of_le_of_ne atMost fun equal => differ (Pair.ext same equal)⟩

theorem Before.ne {p q : Pair} (before : p.Before q) : p ≠ q := by
  rintro rfl
  rcases before with before | ⟨_, before⟩
  · exact Nat.lt_irrefl _ before
  · exact Nat.lt_irrefl _ before

/-- The sorted pairs do not tell in which order the pairs were. -/
theorem sort_eq_of_perm {pairs others : List Pair} (perm : pairs.Perm others) : sort pairs = sort others := by
  refine List.Perm.eq_of_pairwise (fun p q _ _ up down => ?_) (pairwise_sort pairs) (pairwise_sort others)
    ((sort_perm pairs).trans (perm.trans (sort_perm others).symm))
  exact Pair.ext (by omega) (by omega)

end Pair

end ContactGrid
