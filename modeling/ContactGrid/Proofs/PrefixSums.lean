import ContactGrid.Bulk.PrefixSum
import ContactGrid.Proofs.Launch
import Mathlib.Algebra.Order.BigOperators.Group.List
import Mathlib.Algebra.Order.Ring.Nat

namespace ContactGrid

/-- For each element the sum of `start` and the elements before it. -/
def sumsBefore : Nat → List Nat → List Nat
  | _, [] => []
  | start, x :: xs => start :: sumsBefore (start + x) xs

theorem length_sumsBefore (start : Nat) (xs : List Nat) : (sumsBefore start xs).length = xs.length := by
  induction xs generalizing start with
  | nil => rfl
  | cons x xs ih => rw [sumsBefore, List.length_cons, ih, List.length_cons]

theorem sumsBefore_add (shift start : Nat) (xs : List Nat) :
    sumsBefore (shift + start) xs = (sumsBefore start xs).map (shift + ·) := by
  induction xs generalizing start with
  | nil => rfl
  | cons x xs ih => rw [sumsBefore, sumsBefore, List.map_cons, Nat.add_assoc, ih]

theorem sumsBefore_append (start : Nat) (xs ys : List Nat) :
    sumsBefore start (xs ++ ys) = sumsBefore start xs ++ sumsBefore (start + xs.sum) ys := by
  induction xs generalizing start with
  | nil => simp [sumsBefore]
  | cons x xs ih => simp only [List.cons_append, sumsBefore, ih, List.sum_cons, Nat.add_assoc]

theorem getElem?_sumsBefore {start i : Nat} {xs : List Nat} (within : i < xs.length) :
    (sumsBefore start xs)[i]? = some (start + (xs.take i).sum) := by
  induction xs generalizing start i with
  | nil => cases within
  | cons x xs ih =>
    cases i with
    | zero => simp [sumsBefore]
    | succ i =>
      rw [sumsBefore, List.getElem?_cons_succ, ih (by simpa using within), List.take_succ_cons, List.sum_cons,
        Nat.add_assoc]

theorem le_of_mem_sumsBefore {start sum : Nat} {xs : List Nat} (member : sum ∈ sumsBefore start xs) :
    sum ≤ start + xs.sum := by
  induction xs generalizing start with
  | nil => cases member
  | cons x xs ih =>
    rw [List.sum_cons]
    rcases List.mem_cons.1 member with rfl | later
    · exact Nat.le_add_right _ _
    · have bound := ih later
      omega

theorem head?_sumsBefore {start : Nat} {xs : List Nat} (some : xs ≠ []) : (sumsBefore start xs).head? = .some start := by
  cases xs with
  | nil => exact absurd rfl some
  | cons x xs => rfl

theorem sumsBefore_concat (sizes : List Nat) (size : Nat) :
    sumsBefore 0 (sizes ++ [size]) = sumsBefore 0 sizes ++ [sizes.sum] := by
  rw [sumsBefore_append, Nat.zero_add]
  rfl

theorem getElem?_sumsBefore_succ {sizes : List Nat} {b offset size : Nat}
    (atOffset : (sumsBefore 0 sizes)[b]? = some offset) (atSize : sizes[b]? = some size) :
    (sumsBefore 0 sizes ++ [sizes.sum])[b + 1]? = some (offset + size) := by
  have within := (List.getElem?_eq_some_iff.1 atSize).1
  rw [getElem?_sumsBefore within] at atOffset
  obtain rfl := Option.some.inj atOffset
  rw [← sumsBefore_concat sizes 0, getElem?_sumsBefore (by simpa using within), List.take_append_of_le_length within,
    List.take_add_one, atSize]
  simp

theorem Fault.add_eq_ok {limit a b : Nat} (fits : a + b < limit) : Fault.add limit a b = .ok (a + b) :=
  if_pos fits

/-- No addition gets past the total, not even the last one. -/
theorem runningSums_eq_ok {limit start : Nat} {xs : List Nat} (fits : start + xs.sum < limit) :
    runningSums limit start xs = .ok (sumsBefore start xs) := by
  induction xs generalizing start with
  | nil => rfl
  | cons x xs ih =>
    rw [List.sum_cons] at fits
    rw [runningSums, Fault.add_eq_ok (by omega)]
    simp only [bind, Except.bind, ih (show start + x + xs.sum < limit by omega)]
    rfl

theorem foldlM_add_eq_ok {limit start : Nat} {xs : List Nat} (fits : start + xs.sum < limit) :
    xs.foldlM (Fault.add limit) start = .ok (start + xs.sum) := by
  induction xs generalizing start with
  | nil => rfl
  | cons x xs ih =>
    rw [List.sum_cons] at fits ⊢
    rw [List.foldlM_cons, Fault.add_eq_ok (by omega)]
    exact (ih (by omega)).trans (by rw [Nat.add_assoc])

theorem checkedSum_eq_ok {limit : Nat} {xs : List Nat} (fits : xs.sum < limit) :
    checkedSum limit xs = .ok xs.sum := by
  rw [checkedSum, foldlM_add_eq_ok (by omega), Nat.zero_add]

/-- Going through every tile from its base is going through the whole list. -/
theorem flatten_tileSums (start : Nat) (tiles : List (List Nat)) :
    (((sumsBefore start (tiles.map List.sum)).zip tiles).map fun p => sumsBefore p.1 p.2).flatten =
      sumsBefore start tiles.flatten := by
  induction tiles generalizing start with
  | nil => rfl
  | cons tile tiles ih =>
    rw [List.map_cons, sumsBefore, List.zip_cons_cons, List.map_cons, List.flatten_cons, ih, List.flatten_cons,
      sumsBefore_append]

theorem base_add_tile_le {start base : Nat} {tile : List Nat} {tiles : List (List Nat)}
    (member : (base, tile) ∈ (sumsBefore start (tiles.map List.sum)).zip tiles) :
    base + tile.sum ≤ start + tiles.flatten.sum := by
  induction tiles generalizing start with
  | nil => cases member
  | cons first tiles ih =>
    rw [List.map_cons, sumsBefore, List.zip_cons_cons] at member
    rw [List.flatten_cons, List.sum_append]
    rcases List.mem_cons.1 member with same | later
    · cases same
      omega
    · have bound := ih later
      omega

theorem sum_le_sum_flatten {tile : List Nat} {tiles : List (List Nat)} (member : tile ∈ tiles) :
    tile.sum ≤ tiles.flatten.sum := by
  rw [List.sum_flatten]
  exact List.le_sum_of_mem (List.mem_map_of_mem member)

section Tiles

variable {limit : Nat} {input : List Nat}

theorem sum_tiles_lt (fits : input.sum < limit) : (Metered.pieces tileSize input).flatten.sum < limit := by
  rwa [Metered.flatten_pieces (by decide)]

theorem checkedSum_tile (fits : input.sum < limit) {tile : List Nat} (member : tile ∈ Metered.pieces tileSize input) :
    checkedSum limit tile = .ok tile.sum :=
  checkedSum_eq_ok (Nat.lt_of_le_of_lt (sum_le_sum_flatten member) (sum_tiles_lt fits))

theorem runningSums_tiles (fits : input.sum < limit) :
    runningSums limit 0 ((Metered.pieces tileSize input).map List.sum) =
      .ok (sumsBefore 0 ((Metered.pieces tileSize input).map List.sum)) := by
  refine runningSums_eq_ok ?_
  rw [Nat.zero_add, ← List.sum_flatten]
  exact sum_tiles_lt fits

theorem runningSums_tile (fits : input.sum < limit) {base : Nat} {tile : List Nat}
    (member : (base, tile) ∈ (sumsBefore 0 ((Metered.pieces tileSize input).map List.sum)).zip
      (Metered.pieces tileSize input)) : runningSums limit base tile = .ok (sumsBefore base tile) := by
  have bound := base_add_tile_le member
  rw [Nat.zero_add] at bound
  exact runningSums_eq_ok (Nat.lt_of_le_of_lt bound (sum_tiles_lt fits))

end Tiles

/-- The tiled sums are the plain ones, for every length of the input. -/
theorem leads_exclusiveSums {limit : Nat} {oldBases input output : List Nat} {m : Meter}
    {done : List Nat × List Nat → Meter → Prop} {failed : Failure → Meter → Prop}
    (same : input.length = output.length) (fits : input.sum < limit) :
    Leads (exclusiveSums limit oldBases input output) m done failed ↔
      done (if input.isEmpty then oldBases else sumsBefore 0 ((Metered.pieces tileSize input).map List.sum),
        sumsBefore 0 input) (m.launchedOver .light input.length) := by
  have checked : Fault.check (input.length = output.length) "input and output have one length" = .ok () := by
    simp [Fault.check, same]
  cases input with
  | nil =>
    have blank : output = [] := List.length_eq_zero_iff.1 same.symm
    subst blank
    exact Iff.rfl
  | cons x xs =>
    have sums : (Metered.pieces tileSize (x :: xs)).mapM (checkedSum limit) =
        .ok ((Metered.pieces tileSize (x :: xs)).map List.sum) :=
      Metered.mapM_eq_ok fun _ => checkedSum_tile fits
    have swept : ((sumsBefore 0 ((Metered.pieces tileSize (x :: xs)).map List.sum)).zip
          (Metered.pieces tileSize (x :: xs))).mapM (fun p => runningSums limit p.1 p.2) =
        .ok (((sumsBefore 0 ((Metered.pieces tileSize (x :: xs)).map List.sum)).zip
          (Metered.pieces tileSize (x :: xs))).map fun p => sumsBefore p.1 p.2) :=
      Metered.mapM_eq_ok fun _ => runningSums_tile fits
    simp only [exclusiveSums, checked, List.isEmpty_cons, Bool.false_eq_true, if_false, sums, runningSums_tiles fits,
      swept, Leads.bind_iff, Metered.leads_ofFault_ok, Metered.leads_launch, Leads.pure_iff, flatten_tileSums,
      Metered.flatten_pieces (by decide : 0 < tileSize)]
    rfl

theorem run_exclusiveSums {limit : Nat} {oldBases input output : List Nat} {m : Meter}
    (same : input.length = output.length) (fits : input.sum < limit) :
    (exclusiveSums limit oldBases input output).run.run m =
      (.ok (if input.isEmpty then oldBases else sumsBefore 0 ((Metered.pieces tileSize input).map List.sum),
        sumsBefore 0 input), m.launchedOver .light input.length) :=
  Leads.run_eq_ok ((leads_exclusiveSums same fits).2 ⟨rfl, rfl⟩)

/-- The tiled sums are the sums of all earlier elements, for every length of
the input, and whatever the output and the bases of an earlier call hold.
Words with no room beyond the total do as well as wider ones, so that no
addition gets past it, not even those whose result nobody stores. -/
theorem exclusiveSums_exact {limit : Nat} {input output : List Nat} (same : input.length = output.length)
    (fits : input.sum < limit) (oldBases : List Nat) (m : Meter) :
    ∃ bases sums m', (exclusiveSums limit oldBases input output).run.run m = (.ok (bases, sums), m') ∧
      (exclusiveSums (input.sum + 1) oldBases input output).run.run m = (.ok (bases, sums), m') ∧
      sums.length = input.length ∧ ∀ i < input.length, sums[i]? = some (input.take i).sum := by
  refine ⟨_, _, _, run_exclusiveSums same fits, run_exclusiveSums same (Nat.lt_succ_self _),
    length_sumsBefore 0 input, fun i within => ?_⟩
  rw [getElem?_sumsBefore within, Nat.zero_add]

/-- One element more than a tile holds, in an output that is not blank,
after a call with more tiles. -/
theorem exclusiveSums_past_tile :
    (List.replicate (tileSize + 1) 1).length = (List.replicate (tileSize + 1) 9).length ∧
      (List.replicate (tileSize + 1) 1).sum < 2 ^ 32 ∧
      ∃ bases sums m', (exclusiveSums (2 ^ 32) [5, 6, 7] (List.replicate (tileSize + 1) 1)
        (List.replicate (tileSize + 1) 9)).run.run {} = (.ok (bases, sums), m') ∧
        sums.length = tileSize + 1 ∧ sums[tileSize]? = some tileSize := by
  have same : (List.replicate (tileSize + 1) 1).length = (List.replicate (tileSize + 1) 9).length := by
    rw [List.length_replicate, List.length_replicate]
  have fits : (List.replicate (tileSize + 1) 1).sum < 2 ^ 32 := by
    rw [List.sum_replicate_nat]
    decide
  obtain ⟨bases, sums, m', run, _, length, each⟩ := exclusiveSums_exact same fits [5, 6, 7] {}
  have last := each tileSize (by simp)
  rw [List.take_replicate, List.sum_replicate_nat] at last
  rw [List.length_replicate] at length
  exact ⟨same, fits, bases, sums, m', run, length, last⟩

end ContactGrid
