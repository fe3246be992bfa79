import ContactGrid.Audit

namespace ContactGrid

variable {spheres : List (Sphere Float32)}

theorem pairwise_zipIdx {α : Type} (xs : List α) (first : Nat) :
    (xs.zipIdx first).Pairwise fun x y => x.2 < y.2 := by
  rw [← List.pairwise_map, List.zipIdx_map_snd]
  exact List.pairwise_lt_range'

theorem mem_overlaps_behind {s : Sphere Float32} {i : Nat} {p : Pair} :
    (p ∈ ((spheres.drop (i + 1)).zipIdx (i + 1)).filterMap fun (t, j) => if s.overlaps t then some ⟨i, j⟩ else none) ↔
      p.a = i ∧ i < p.b ∧ ∃ t, spheres[p.b]? = some t ∧ s.overlaps t = true := by
  rw [List.mem_filterMap]
  constructor
  · rintro ⟨⟨t, j⟩, numbered, chosen⟩
    obtain ⟨behind, atJ⟩ := List.mk_mem_zipIdx_iff_le_and_getElem?_sub.1 numbered
    rw [List.getElem?_drop, Nat.add_sub_cancel' behind] at atJ
    by_cases overlap : s.overlaps t = true
    · obtain rfl := Option.some.inj ((if_pos overlap).symm.trans chosen)
      exact ⟨rfl, behind, t, atJ, overlap⟩
    · cases (if_neg overlap).symm.trans chosen
  · rintro ⟨rfl, behind, t, atJ, overlap⟩
    refine ⟨(t, p.b), List.mk_mem_zipIdx_iff_le_and_getElem?_sub.2 ⟨behind, ?_⟩, if_pos overlap⟩
    rw [List.getElem?_drop, Nat.add_sub_cancel' behind, atJ]

theorem mem_overlappingPairs {p : Pair} :
    p ∈ overlappingPairs spheres ↔
      ∃ s t, spheres[p.a]? = some s ∧ spheres[p.b]? = some t ∧ p.a < p.b ∧ s.overlaps t = true := by
  simp only [overlappingPairs, List.mem_flatMap]
  constructor
  · rintro ⟨⟨s, i⟩, numbered, member⟩
    obtain ⟨rfl, before, t, atJ, overlap⟩ := mem_overlaps_behind.1 member
    exact ⟨s, t, List.mk_mem_zipIdx_iff_getElem?.1 numbered, atJ, before, overlap⟩
  · rintro ⟨s, t, atI, atJ, before, overlap⟩
    exact ⟨(s, p.a), List.mk_mem_zipIdx_iff_getElem?.2 atI, mem_overlaps_behind.2 ⟨rfl, before, t, atJ, overlap⟩⟩

/-- The overlapping pairs come in order, hence once each. -/
theorem pairwise_overlappingPairs (spheres : List (Sphere Float32)) :
    (overlappingPairs spheres).Pairwise fun p q => p.a < q.a ∨ p.a = q.a ∧ p.b < q.b := by
  rw [overlappingPairs, List.pairwise_flatMap]
  constructor
  · rintro ⟨s, i⟩ _
    rw [List.pairwise_filterMap]
    refine (pairwise_zipIdx _ _).imp fun {x y} before p first q second => ?_
    simp only [Option.ite_none_right_eq_some] at first second
    obtain ⟨_, first⟩ := first
    obtain ⟨_, second⟩ := second
    cases first
    cases second
    exact Or.inr ⟨rfl, before⟩
  · refine (pairwise_zipIdx spheres 0).imp fun {x y} before p first q second => Or.inl ?_
    rw [(mem_overlaps_behind.1 first).1, (mem_overlaps_behind.1 second).1]
    exact before

end ContactGrid
