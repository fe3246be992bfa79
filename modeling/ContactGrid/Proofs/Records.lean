import ContactGrid.Proofs.Listing

namespace ContactGrid

namespace Grid

variable (g : Grid Float32) (spheres : List (Sphere Float32))

/-- The records of all objects, bucket by bucket. -/
def records : List Entry :=
  (g.usedBuckets spheres).flatMap (g.slotsOf spheres)

/-- What a run over some spheres that found `pairs` pairs sums up to. -/
def summary (pairs : Nat) : Summary where
  objects := spheres.length
  slots := (g.allSlots spheres).length
  records := (g.records spheres).length
  phantoms := ((g.records spheres).filter Entry.isPhantom).length
  buckets := (keyGroups Entry.bucket (g.allSlots spheres)).length
  validBuckets := (g.usedBuckets spheres).length
  largestBucket := ((g.usedBuckets spheres).map fun k => (g.slotsOf spheres k).length).foldl max 0
  pairs := pairs
  cellSize := g.cellSize

end Grid

namespace Index.Built

variable {x : Index} {g : Grid Float32} {spheres : List (Sphere Float32)}

theorem recordCount_eq_ok (built : x.Built g spheres) : x.recordCount = .ok (g.records spheres).length := by
  rw [recordCount, built.validBuckets]
  by_cases none : (g.usedBuckets spheres).length = 0
  · rw [if_pos none, Grid.records, List.length_eq_zero_iff.1 none]
    rfl
  · have some : spheres ≠ [] := by
      rintro rfl
      exact none rfl
    have offset : x.bucketOffsets.get? (g.usedBuckets spheres).length = Option.some (g.records spheres).length := by
      rw [Tape.get?_eq_getElem?, built.offsets, Grid.keyGroups_allSlots some, getElem?_sumsBefore (by simp)]
      simp [Grid.records, List.length_flatMap, Function.comp_def]
    rw [if_neg none, offset]

theorem records_eq_ok (built : x.Built g spheres) : x.records = .ok (g.records spheres) := by
  have sorted : radixSort Entry.bucket (g.allSlots spheres) =
      g.records spheres ++ (radixSort Entry.bucket (g.allSlots spheres)).drop (g.records spheres).length := by
    by_cases none : spheres = []
    · subst none
      rfl
    · rw [← flatten_keyGroups, Grid.keyGroups_allSlots none, List.flatten_append, ← List.flatMap_def]
      exact (congrArg _ (List.drop_left).symm)
  have room : 0 + (g.records spheres).length ≤ x.sortedEntries.contents.length := by
    rw [built.sorted, sorted, List.length_append]
    omega
  rw [Index.records, built.recordCount_eq_ok, Fault.ok_bind, slice, if_pos room, built.sorted, sorted, List.drop_zero,
    List.take_left]

theorem summary_eq_ok (built : x.Built g spheres) : x.summary = .ok (g.summary spheres x.pairCount) := by
  have sizes : slice x.bucketSizes.contents 0 x.validBuckets =
      .ok ((g.usedBuckets spheres).map fun k => (g.slotsOf spheres k).length) := by
    rw [slice, built.validBuckets, built.sizes, List.drop_zero]
    by_cases none : spheres = []
    · subst none
      rfl
    · rw [Grid.keyGroups_allSlots none, if_pos (by simp), List.map_append, List.take_left' (by simp), List.map_map]
      rfl
  rw [Index.summary, sizes, Fault.ok_bind, built.records_eq_ok, Fault.ok_bind, built.validBuckets, built.count,
    built.buckets, built.size, ← Tape.length_contents, built.entries]
  rfl

end Index.Built

end ContactGrid
