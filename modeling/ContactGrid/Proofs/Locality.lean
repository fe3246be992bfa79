import ContactGrid.Proofs.Contacts
import ContactGrid.Proofs.MachineSymmetry

namespace ContactGrid

/-- Scaled by the same factor, numbers of equal value give the same number,
unless the outcome is not positive. Only the two zeros have equal values
without being the same. -/
theorem Scalar.real32_mul_eq_of_beq {x y : Float32} (same : (x == y) = true)
    (positive : Float32.lt 0 (x * cellSizeScale) = true) : x * cellSizeScale = y * cellSizeScale := by
  obtain ⟨_, _, rfl | ⟨rfl, rfl⟩ | ⟨rfl, rfl⟩⟩ := Float32.beq_iff_ne_nan_and_eq.1 same
  · rfl
  · revert positive
    decide +kernel
  · revert positive
    decide +kernel

theorem Index.settledSize_congr {requested : Float32} {radii others : List Float32} (some : radii.isEmpty = false)
    (some' : others.isEmpty = false) (accepted : sizeRefusal requested radii = none)
    (same : Float32.lt 0 requested = true ∨ (maximum radii == maximum others) = true) :
    settledSize requested radii = settledSize requested others := by
  unfold settledSize
  rw [some, some']
  cases explicit : Float32.lt 0 requested with
  | true => rfl
  | false =>
    have automatic : automaticRefusal radii = none := by
      unfold sizeRefusal at accepted
      split at accepted
      · cases accepted
      · simpa [some, explicit] using accepted
    have positive : Float32.lt 0 (maximum radii * cellSizeScale) = true := by
      unfold automaticRefusal at automatic
      split at automatic
      · cases automatic
      · rename_i usable
        simp_all
    rw [explicit] at same
    exact Scalar.real32_mul_eq_of_beq (same.resolve_left Bool.false_ne_true) positive

theorem Grid.Meet.symm {α : Type} [Scalar α] {g : Grid α} {s t : Sphere α} (meet : g.Meet s t) : g.Meet t s := by
  obtain ⟨c, inS, inT⟩ := meet
  exact ⟨c, inT, inS⟩

/-- If every number is a new name, then every pair of numbers is a renamed
one. -/
theorem Pair.exists_renamed {n m : Nat} {f : Fin n → Fin m} (surjective : Function.Surjective f) {p : Pair}
    (before : p.a < p.b) (within : p.b < m) : ∃ i j, i < j ∧ p = normalized ⟨f i, f j⟩ := by
  obtain ⟨i, atI⟩ := surjective ⟨p.a, Nat.lt_trans before within⟩
  obtain ⟨j, atJ⟩ := surjective ⟨p.b, within⟩
  have differ : i ≠ j := by
    rintro rfl
    exact absurd (congrArg Fin.val (atI.symm.trans atJ)) (Nat.ne_of_lt before)
  rcases lt_or_gt_of_ne differ with first | second
  · refine ⟨i, j, first, ?_⟩
    rw [atI, atJ]
    exact (if_pos (Nat.le_of_lt before)).symm
  · refine ⟨j, i, second, ?_⟩
    rw [atI, atJ]
    exact (if_neg (Nat.not_le.2 before)).symm

namespace Source

variable {source : Source} {g : Grid Float32}

theorem getElem?_toList (source : Source) (i : Fin source.count) :
    source.toList[i.val]? = some (source.sphere i) := by
  rw [toList, List.getElem?_ofFn, dif_pos i.isLt]

theorem mem_pairList {i j : Fin source.count} :
    ⟨i, j⟩ ∈ g.pairList source.toList ↔
      i < j ∧ (source.sphere i).overlaps (source.sphere j) = true ∧ g.Meet (source.sphere i) (source.sphere j) := by
  rw [Grid.mem_pairList]
  dsimp only
  rw [getElem?_toList, getElem?_toList]
  constructor
  · rintro ⟨s, t, atI, atJ, before, overlap, meet⟩
    obtain rfl := Option.some.inj atI
    obtain rfl := Option.some.inj atJ
    exact ⟨before, overlap, meet⟩
  · rintro ⟨before, overlap, meet⟩
    exact ⟨_, _, rfl, rfl, before, overlap, meet⟩

/-- Which of two objects comes first makes no difference to their pair. -/
theorem normalized_mem_pairList {i j : Fin source.count} (differ : i ≠ j) :
    Pair.normalized ⟨i, j⟩ ∈ g.pairList source.toList ↔
      (source.sphere i).overlaps (source.sphere j) = true ∧ g.Meet (source.sphere i) (source.sphere j) := by
  rcases lt_or_gt_of_ne differ with before | behind
  · have same : Pair.normalized ⟨i, j⟩ = ⟨i, j⟩ := if_pos (Nat.le_of_lt before)
    rw [same, mem_pairList, and_iff_right before]
  · have turned : Pair.normalized ⟨i, j⟩ = ⟨j, i⟩ := if_neg (Nat.not_le.2 behind)
    rw [turned, mem_pairList, and_iff_right behind, Sphere.overlaps_comm]
    exact and_congr_right fun _ => ⟨Grid.Meet.symm, Grid.Meet.symm⟩

theorem radii_isEmpty (i : Fin source.count) : (source.toList.map (·.radius)).isEmpty = false := by
  have some : source.toList ≠ [] := List.ne_nil_of_mem (List.mem_of_getElem? (source.getElem?_toList i))
  rwa [List.isEmpty_eq_false_iff, ne_eq, List.map_eq_nil_iff]

end Source

theorem Config.grid_congr {config : Config} {xs ys : Source} (i : Fin xs.count) (j : Fin ys.count)
    (accepted : config.refusal xs.toList = none)
    (sized : Float32.lt 0 (config.cellSize.getD 0) = true ∨
      (maximum (xs.toList.map (·.radius)) == maximum (ys.toList.map (·.radius))) = true) :
    config.grid xs.toList = config.grid ys.toList := by
  unfold Config.refusal at accepted
  simp only [Option.or_eq_none_iff] at accepted
  have size := Index.settledSize_congr (Source.radii_isEmpty i) (Source.radii_isEmpty j) accepted.2.1 sized
  rw [Config.grid, Config.grid, size]

theorem findContacts_pairs {memory : Memory} {finest : Option Level} {config : Config} {source : Source}
    {contacts : Contacts} (ok : (findContacts memory finest config source).1 = .ok contacts) :
    config.refusal source.toList = none ∧
      ∀ p, p ∈ contacts.pairs ↔ p ∈ (config.grid source.toList).pairList source.toList := by
  rcases findContacts_cases memory finest config source with ⟨accepted, found⟩ | ⟨e, _, lost⟩
  · obtain rfl := Except.ok.inj (found.symm.trans ok)
    exact ⟨accepted, fun p => (Pair.sort_perm _).mem_iff⟩
  · cases lost.symm.trans ok

/-- Whether two spheres are reported depends on nothing else in the input,
given the cell size. Where some spheres are left out and the others put in
another order, the pairs of those that stay are renamed and nothing else; so
all pairs are renamed if all spheres stay. -/
theorem findContacts_local {memory memory' : Memory} {finest finest' : Option Level} {config : Config}
    {xs ys : Source} {contacts others : Contacts} (okX : (findContacts memory finest config xs).1 = .ok contacts)
    (okY : (findContacts memory' finest' config ys).1 = .ok others) {f : Fin ys.count → Fin xs.count}
    (injective : Function.Injective f) (same : ∀ k, ys.sphere k = xs.sphere (f k))
    (sized : Float32.lt 0 (config.cellSize.getD 0) = true ∨
      (maximum (xs.toList.map (·.radius)) == maximum (ys.toList.map (·.radius))) = true) :
    (∀ i j, i < j → (⟨i, j⟩ ∈ others.pairs ↔ Pair.normalized ⟨f i, f j⟩ ∈ contacts.pairs)) ∧
      (Function.Surjective f → ∀ p ∈ contacts.pairs, ∃ i j, i < j ∧ ⟨i, j⟩ ∈ others.pairs ∧
        p = Pair.normalized ⟨f i, f j⟩) := by
  obtain ⟨accepted, inX⟩ := findContacts_pairs okX
  obtain ⟨_, inY⟩ := findContacts_pairs okY
  have renamed (i j : Fin ys.count) (before : i < j) :
      ⟨i, j⟩ ∈ others.pairs ↔ Pair.normalized ⟨f i, f j⟩ ∈ contacts.pairs := by
    have differ : f i ≠ f j := fun equal => absurd (injective equal) (ne_of_lt before)
    rw [inX, inY, Config.grid_congr (f i) i accepted sized, Source.normalized_mem_pairList differ, Source.mem_pairList,
      and_iff_right before, same, same]
  refine ⟨renamed, fun surjective p listed => ?_⟩
  obtain ⟨s, t, _, atB, before, _⟩ := Grid.mem_pairList.1 ((inX p).1 listed)
  have within := (List.getElem?_eq_some_iff.1 atB).1
  rw [Source.length_toList] at within
  obtain ⟨i, j, first, rfl⟩ := Pair.exists_renamed surjective before within
  exact ⟨i, j, first, (renamed i j first).2 listed, rfl⟩

/-- The row without the sphere at its far end, and with the other two
swapped. -/
def Source.swappedRow : Source :=
  .ofList [⟨⟨1.5, 0.5, 0.5⟩, 0.5⟩, ⟨⟨0.5, 0.5, 0.5⟩, 0.5⟩]

/-- What is left of the row keeps its pair. -/
theorem findContacts_local_row : ∃ contacts others,
    (findContacts .machine none { cellSize := some 1 } .row).1 = .ok contacts ∧
    (findContacts .machine none { cellSize := some 1 } .swappedRow).1 = .ok others ∧
    ⟨0, 2⟩ ∈ contacts.pairs ∧ ⟨0, 1⟩ ∈ others.pairs := by
  have goodX : (findContacts .machine none { cellSize := some 1 } .row).1.isOk = true := by decide +kernel
  have goodY : (findContacts .machine none { cellSize := some 1 } .swappedRow).1.isOk = true := by decide +kernel
  obtain ⟨contacts, okX⟩ := exists_of_isOk goodX
  obtain ⟨others, okY⟩ := exists_of_isOk goodY
  have listed : ⟨0, 2⟩ ∈ contacts.pairs := by
    rw [(findContacts_pairs okX).2, Source.row, Source.toList_ofList]
    decide +kernel
  let f (k : Fin 2) : Fin 3 := if k = 0 then 2 else 0
  have injective : ∀ k l, f k = f l → k = l := by decide
  have renamed := (findContacts_local okX okY (f := f) (fun k l => injective k l) (by decide +kernel)
    (Or.inl (by decide +kernel))).1
  exact ⟨contacts, others, okX, okY, listed, (renamed (0 : Fin 2) (1 : Fin 2) (by decide)).2 listed⟩

end ContactGrid
