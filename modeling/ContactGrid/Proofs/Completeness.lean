import ContactGrid.Proofs.Audit
import ContactGrid.Proofs.Contacts
import ContactGrid.Proofs.Coverage

namespace ContactGrid

/-- The number itself. The special values count as zero. -/
def Dyadic.value : Dyadic → Rat
  | .finite negative m q => (if negative then -1 else 1) * (m * 2 ^ q)
  | _ => 0

/-- The number that a machine number stores. -/
def stored (x : Float32) : Rat :=
  (Dyadic.ofFloat32 x).value

example : stored (-0.375) = -3 / 8 := by decide +kernel

/-- The stored sphere, for a reading without rounding. -/
def Sphere.unrounded (s : Sphere Float32) : Sphere Rat :=
  ⟨s.center.map stored, stored s.radius⟩

namespace Grid

/-- The stored grid, for a reading without rounding. -/
def unrounded (g : Grid Float32) : Grid Rat :=
  ⟨stored g.cellSize, g.origin.map stored, g.hash⟩

def Fits (g : Grid Rat) (s : Sphere Rat) : Prop :=
  0 ≤ s.radius ∧ 2 * s.radius ≤ g.cellSize

/-- Rounding changes whether the spheres overlap, or in which cells one of
them is recorded. -/
def Blurs (g : Grid Float32) (s t : Sphere Float32) : Prop :=
  s.overlaps t ≠ s.unrounded.overlaps t.unrounded ∨
    g.recordedCells s ≠ g.unrounded.recordedCells s.unrounded ∨
    g.recordedCells t ≠ g.unrounded.recordedCells t.unrounded

variable {g : Grid Float32} {spheres : List (Sphere Float32)} {s t : Sphere Float32}

/-- Spheres that overlap but do not meet have been torn apart by rounding,
unless they are too wide for the grid. -/
theorem blurs_of_not_meet (positive : 0 < g.unrounded.cellSize) (fitsS : g.unrounded.Fits s.unrounded)
    (fitsT : g.unrounded.Fits t.unrounded) (overlap : s.overlaps t = true) (apart : ¬g.Meet s t) : g.Blurs s t := by
  by_contra sharp
  simp only [Blurs, not_or, ne_eq, Decidable.not_not] at sharp
  obtain ⟨sameOverlap, sameS, sameT⟩ := sharp
  obtain ⟨p, reachS, reachT⟩ := Sphere.exists_common fitsS.1 fitsT.1 (sameOverlap.symm.trans overlap)
  have inS := cellBelow_mem_recordedCells positive fitsS.1 fitsS.2 reachS
  have inT := cellBelow_mem_recordedCells positive fitsT.1 fitsT.2 reachT
  exact apart ⟨_, sameS ▸ inS, sameT ▸ inT⟩

theorem mem_pairList_iff_overlapping {p : Pair} :
    p ∈ g.pairList spheres ↔ p ∈ overlappingPairs spheres ∧
      ∃ s t, spheres[p.a]? = some s ∧ spheres[p.b]? = some t ∧ g.Meet s t := by
  rw [mem_pairList, mem_overlappingPairs]
  constructor
  · rintro ⟨s, t, atA, atB, before, overlap, meet⟩
    exact ⟨⟨s, t, atA, atB, before, overlap⟩, s, t, atA, atB, meet⟩
  · rintro ⟨⟨s, t, atA, atB, before, overlap⟩, s', t', atA', atB', meet⟩
    obtain rfl := Option.some.inj (atA.symm.trans atA')
    obtain rfl := Option.some.inj (atB.symm.trans atB')
    exact ⟨s, t, atA, atB, before, overlap, meet⟩

theorem sort_pairList_sublist (g : Grid Float32) (spheres : List (Sphere Float32)) :
    (Pair.sort (g.pairList spheres)).Sublist (overlappingPairs spheres) := by
  have ordered := Pair.pairwise_sort_of_nodup (nodup_pairList g spheres)
  have inside : Pair.sort (g.pairList spheres) ⊆ overlappingPairs spheres := fun p member =>
    (mem_pairList_iff_overlapping.1 ((Pair.sort_perm _).mem_iff.1 member)).1
  exact List.sublist_of_subperm_of_pairwise (List.subperm_of_subset ordered.nodup inside) ordered
    (pairwise_overlappingPairs spheres)

theorem sort_pairList_eq_iff :
    Pair.sort (g.pairList spheres) = overlappingPairs spheres ↔
      ∀ (i j : Nat) s t, i < j → spheres[i]? = some s → spheres[j]? = some t → s.overlaps t = true → g.Meet s t := by
  constructor
  · intro equal i j s t before atI atJ overlap
    have listed : (⟨i, j⟩ : Pair) ∈ Pair.sort (g.pairList spheres) := by
      rw [equal]
      exact mem_overlappingPairs.2 ⟨s, t, atI, atJ, before, overlap⟩
    obtain ⟨_, s', t', atI', atJ', meet⟩ := mem_pairList_iff_overlapping.1 ((Pair.sort_perm _).mem_iff.1 listed)
    obtain rfl := Option.some.inj (atI.symm.trans atI')
    obtain rfl := Option.some.inj (atJ.symm.trans atJ')
    exact meet
  · intro meets
    refine (Pair.pairwise_sort_of_nodup (nodup_pairList g spheres)).eq_of_mem_iff (pairwise_overlappingPairs spheres)
      fun p => ?_
    rw [(Pair.sort_perm _).mem_iff, mem_pairList_iff_overlapping]
    refine ⟨fun both => both.1, fun member => ⟨member, ?_⟩⟩
    obtain ⟨s, t, atA, atB, before, overlap⟩ := mem_overlappingPairs.1 member
    exact ⟨s, t, atA, atB, meets p.a p.b s t before atA atB overlap⟩

end Grid

/-- A successful search returns some of the overlapping pairs, in order.
They are all of them exactly if any two spheres that overlap are recorded in
a common cell. A pair of spheres that fit into the cells is missed only by
rounding. -/
theorem findContacts_complete_iff {memory : Memory} {finest : Option Level} {config : Config} {source : Source}
    {contacts : Contacts} (ok : (findContacts memory finest config source).1 = .ok contacts) :
    contacts.pairs.Sublist (overlappingPairs source.toList) ∧
      (contacts.pairs = overlappingPairs source.toList ↔
        ∀ (i j : Nat) s t, i < j → source.toList[i]? = some s → source.toList[j]? = some t → s.overlaps t = true →
          (config.grid source.toList).Meet s t) ∧
      ∀ (i j : Nat) s t, i < j → source.toList[i]? = some s → source.toList[j]? = some t → s.overlaps t = true →
        ⟨i, j⟩ ∉ contacts.pairs → 0 < (config.grid source.toList).unrounded.cellSize →
        (config.grid source.toList).unrounded.Fits s.unrounded →
        (config.grid source.toList).unrounded.Fits t.unrounded → (config.grid source.toList).Blurs s t := by
  rcases findContacts_cases memory finest config source with ⟨_, found⟩ | ⟨e, _, lost⟩
  · obtain rfl := Except.ok.inj (found.symm.trans ok)
    dsimp only
    refine ⟨Grid.sort_pairList_sublist _ _, Grid.sort_pairList_eq_iff, ?_⟩
    intro i j s t before atI atJ overlap missed positive fitsS fitsT
    refine Grid.blurs_of_not_meet positive fitsS fitsT overlap fun meet => missed ?_
    rw [(Pair.sort_perm _).mem_iff, Grid.mem_pairList]
    exact ⟨s, t, atI, atJ, before, overlap, meet⟩
  · cases lost.symm.trans ok

/-- Two spheres that touch, far from the origin. -/
def farSpheres : List (Sphere Float32) :=
  [⟨⟨4194318, 0.5, 0.5⟩, 0.5⟩, ⟨⟨4194319, 0.5, 0.5⟩, 0.5⟩]

/-- With the automatic cell size they are recorded in different cells. -/
theorem findContacts_misses_far : ∃ contacts,
    (findContacts .machine none {} (.ofList farSpheres)).1 = .ok contacts ∧
      contacts.pairs ≠ overlappingPairs farSpheres := by
  have good : (findContacts .machine none {} (.ofList farSpheres)).1.isOk = true := by decide +kernel
  obtain ⟨contacts, ok⟩ := exists_of_isOk good
  obtain ⟨_, complete, _⟩ := findContacts_complete_iff ok
  rw [Source.toList_ofList] at complete
  refine ⟨contacts, ok, fun equal => ?_⟩
  have meet := complete.1 equal 0 1 _ _ (by decide) rfl rfl (by decide +kernel)
  revert meet
  decide +kernel

end ContactGrid
