namespace ContactGrid

variable {α : Type}

/-- Elements whose key has a zero bit, then those whose key has a one bit,
each in the order they had. -/
def radixPass (key : α → Nat) (xs : List α) (bit : Nat) : List α :=
  xs.filter (fun x => !(key x).testBit bit) ++ xs.filter fun x => (key x).testBit bit

/-- So many bits hold every key. -/
def keyBits (key : α → Nat) (xs : List α) : Nat :=
  (xs.map fun x => (key x).log2 + 1).max?.getD 0

/-- Sorts by key, least significant bit first. Elements of equal keys stay
in order. -/
def radixSort (key : α → Nat) (xs : List α) : List α :=
  (List.range (keyBits key xs)).foldl (radixPass key) xs

/-- The key as far as its low bits tell. -/
def lowKey (key : α → Nat) (bits : Nat) (x : α) : Nat :=
  key x % Nat.pow 2 bits

theorem lowKey_succ (key : α → Nat) (bits : Nat) (x : α) :
    lowKey key (bits + 1) x = lowKey key bits x + Nat.pow 2 bits * ((key x).testBit bits).toNat := by
  rw [Nat.toNat_testBit]
  exact Nat.mod_pow_succ

theorem lowKey_lt (key : α → Nat) (bits : Nat) (x : α) : lowKey key bits x < Nat.pow 2 bits :=
  Nat.mod_lt _ (Nat.two_pow_pos bits)

theorem lowKey_keyBits {key : α → Nat} {xs : List α} {x : α} (member : x ∈ xs) :
    lowKey key (keyBits key xs) x = key x := by
  have held : (key x).log2 + 1 ≤ keyBits key xs :=
    List.le_max?_getD_of_mem (List.mem_map.2 ⟨x, member, rfl⟩)
  exact Nat.mod_eq_of_lt (Nat.lt_of_lt_of_le Nat.lt_log2_self (Nat.pow_le_pow_right (by decide) held))

theorem radixPass_perm (key : α → Nat) (xs : List α) (bit : Nat) : (radixPass key xs bit).Perm xs :=
  List.perm_append_comm.trans (List.filter_append_perm (fun x => (key x).testBit bit) xs)

theorem foldl_radixPass_perm (key : α → Nat) (bits : List Nat) (xs : List α) :
    (bits.foldl (radixPass key) xs).Perm xs := by
  induction bits generalizing xs with
  | nil => exact .refl xs
  | cons bit bits ih => exact (ih _).trans (radixPass_perm key xs bit)

theorem radixSort_perm (key : α → Nat) (xs : List α) : (radixSort key xs).Perm xs :=
  foldl_radixPass_perm key _ xs

theorem mem_radixSort {key : α → Nat} {xs : List α} {x : α} : x ∈ radixSort key xs ↔ x ∈ xs :=
  (radixSort_perm key xs).mem_iff

theorem length_radixSort (key : α → Nat) (xs : List α) : (radixSort key xs).length = xs.length :=
  (radixSort_perm key xs).length_eq

/-- A pass keeps the order of elements that agree in its bit. -/
theorem filter_radixPass {key : α → Nat} {p : α → Bool} {bit : Nat} {b : Bool}
    (agree : ∀ x, p x = true → (key x).testBit bit = b) (xs : List α) :
    (radixPass key xs bit).filter p = xs.filter p := by
  have zeros : ∀ x, (p x && !(key x).testBit bit) = (!b && p x) := fun x => by
    cases hp : p x <;> simp [agree x, hp]
  have ones : ∀ x, (p x && (key x).testBit bit) = (b && p x) := fun x => by
    cases hp : p x <;> simp [agree x, hp]
  simp only [radixPass, List.filter_append, List.filter_filter, zeros, ones]
  cases b <;> simp

/-- Elements of one key stay in order. -/
theorem filter_radixSort (key : α → Nat) (k : Nat) (xs : List α) :
    (radixSort key xs).filter (key · == k) = xs.filter (key · == k) := by
  unfold radixSort
  generalize List.range (keyBits key xs) = bits
  induction bits generalizing xs with
  | nil => rfl
  | cons bit bits ih =>
    rw [List.foldl_cons, ih]
    exact filter_radixPass (fun x hx => congrArg (·.testBit bit) (eq_of_beq hx)) xs

/-- A pass over the next bit extends an order by low bits. Among equal low
bits, whatever relation held from earlier to later elements goes on to
hold. -/
theorem pairwise_radixPass {key : α → Nat} {R : α → α → Prop} {bits : Nat} {xs : List α}
    (sorted : xs.Pairwise fun x y =>
      lowKey key bits x < lowKey key bits y ∨ lowKey key bits x = lowKey key bits y ∧ R x y) :
    (radixPass key xs bits).Pairwise fun x y =>
      lowKey key (bits + 1) x < lowKey key (bits + 1) y ∨
        lowKey key (bits + 1) x = lowKey key (bits + 1) y ∧ R x y := by
  refine List.pairwise_append.2 ⟨?_, ?_, ?_⟩
  · refine (sorted.filter _).imp_of_mem fun {x y} hx hy le => ?_
    have hx := (List.mem_filter.1 hx).2
    have hy := (List.mem_filter.1 hy).2
    simp_all [lowKey_succ]
  · refine (sorted.filter _).imp_of_mem fun {x y} hx hy le => ?_
    have hx := (List.mem_filter.1 hx).2
    have hy := (List.mem_filter.1 hy).2
    simp_all [lowKey_succ]
  · intro x hx y hy
    have hx := (List.mem_filter.1 hx).2
    have hy := (List.mem_filter.1 hy).2
    have low := lowKey_lt key bits x
    left
    simp_all [lowKey_succ]
    omega

theorem pairwise_foldl_radixPass {R : α → α → Prop} {xs : List α} (before : xs.Pairwise R) (key : α → Nat)
    (bits : Nat) :
    ((List.range bits).foldl (radixPass key) xs).Pairwise fun x y =>
      lowKey key bits x < lowKey key bits y ∨ lowKey key bits x = lowKey key bits y ∧ R x y := by
  induction bits with
  | zero => exact before.imp fun r => .inr ⟨by simp [lowKey, Nat.mod_one], r⟩
  | succ bits ih =>
    rw [List.range_succ, List.foldl_append]
    exact pairwise_radixPass ih

/-- Sorting refines any earlier order. -/
theorem pairwise_radixSort_of_pairwise {R : α → α → Prop} {xs : List α} (before : xs.Pairwise R)
    (key : α → Nat) :
    (radixSort key xs).Pairwise fun x y => key x < key y ∨ key x = key y ∧ R x y :=
  (pairwise_foldl_radixPass before key (keyBits key xs)).imp_of_mem fun hx hy le => by
    rwa [lowKey_keyBits (mem_radixSort.1 hx), lowKey_keyBits (mem_radixSort.1 hy)] at le

theorem pairwise_radixSort (key : α → Nat) (xs : List α) :
    (radixSort key xs).Pairwise fun x y => key x ≤ key y :=
  (pairwise_radixSort_of_pairwise (List.pairwise_of_forall fun _ _ => trivial) key).imp fun le =>
    le.elim Nat.le_of_lt fun same => Nat.le_of_eq same.1

end ContactGrid
