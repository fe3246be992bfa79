import ContactGrid.Proofs.Histories
import ContactGrid.Proofs.Reuse

namespace ContactGrid

/-- Slots that some objects fill, one after another and whatever the slots
held. -/
def Grid.Fills (g : Grid Float32) (spheres : List (Sphere Float32)) (slots : List Entry) : Prop :=
  ∃ parts : List (List Entry), parts.flatten = slots ∧ parts.length = spheres.length ∧
    ∀ i s, spheres[i]? = some s → ∃ part, parts[i]? = some part ∧ part.length = slotsPerObject ∧
      ∀ old, old.length = slotsPerObject → g.writeSlots s i old = .ok part

/-- An index has its slots in order and cut up into buckets: each of one key
and not empty, in the order of keys, one right behind the other until the
slots are used up. Unused slots make up the last bucket. -/
structure Index.Partitioned (x : Index) (slots : List Entry) : Prop where
  sorted : x.sortedEntries.contents = slots.mergeSort fun e f => decide (e.bucket ≤ f.bucket)
  keys : x.bucketKeys.contents.length = x.bucketCount
  sizes : x.bucketSizes.contents.length = x.bucketCount
  offsets : x.bucketOffsets.contents.length = x.bucketCount
  increasing : x.bucketKeys.contents.Pairwise (· < ·)
  positive : ∀ size ∈ x.bucketSizes.contents, 0 < size
  first : x.bucketOffsets.contents.head? = some 0
  adjoining : ∀ b offset size, x.bucketOffsets.contents[b]? = some offset → x.bucketSizes.contents[b]? = some size →
    (x.bucketOffsets.contents ++ [slots.length])[b + 1]? = some (offset + size)
  bucket : ∀ b key, x.bucketKeys.contents[b]? = some key →
    x.buckets.bucket b = .ok (slots.filter fun e => decide (e.bucket = key))
  unused : x.bucketKeys.contents[x.validBuckets]? = some Entry.sentinelBucket
  records : x.records = .ok (x.sortedEntries.contents.filter fun e => !e.isSentinel)

namespace Grid

variable {g : Grid Float32} {spheres : List (Sphere Float32)}

theorem fills_slots (g : Grid Float32) (spheres : List (Sphere Float32)) :
    g.Fills spheres (spheres.mapIdx fun i s => g.slots s i).flatten := by
  refine ⟨_, rfl, List.length_mapIdx, fun i s found => ⟨g.slots s i, ?_, length_slots g s i, ?_⟩⟩
  · rw [List.getElem?_mapIdx, found]
    rfl
  · exact fun old eight => writeSlots_eq_ok g s i eight

/-- In sorted order, what is in use comes first. -/
theorem filter_radixSort_allSlots (some : spheres ≠ []) :
    (radixSort Entry.bucket (g.allSlots spheres)).filter (fun e => !e.isSentinel) = g.records spheres := by
  rw [← flatten_keyGroups, keyGroups_allSlots some, List.flatten_append, ← List.flatMap_def, List.filter_append]
  have used : (g.records spheres).filter (fun e => !e.isSentinel) = g.records spheres := by
    refine List.filter_eq_self.2 fun e member => ?_
    obtain ⟨k, used, inside⟩ := List.mem_flatMap.1 member
    rw [Entry.isSentinel, (mem_slotsOf.1 inside).2, decide_eq_false (mem_usedBuckets.1 used).1]
    rfl
  have unused : [g.slotsOf spheres Entry.sentinelBucket].flatten.filter (fun e => !e.isSentinel) = [] := by
    refine List.filter_eq_nil_iff.2 fun e member => ?_
    rw [List.flatten_singleton] at member
    simp [Entry.isSentinel, (mem_slotsOf.1 member).2]
  rw [unused, List.append_nil]
  exact used

end Grid

namespace Index.Built

variable {x : Index} {g : Grid Float32} {spheres : List (Sphere Float32)}

theorem partitioned (built : x.Built g spheres) (some : spheres ≠ []) : x.Partitioned (g.allSlots spheres) where
  sorted := built.sorted.trans (radixSort_eq_mergeSort _ _)
  keys := by rw [built.keys, built.buckets, keyGroups, List.length_map]
  sizes := by rw [built.sizes, built.buckets, List.length_map]
  offsets := by rw [built.offsets, built.buckets, length_sumsBefore, List.length_map]
  increasing := built.keys ▸ pairwise_groupKeys _ _
  positive size member := by
    rw [built.sizes, ← groupRuns_snd] at member
    obtain ⟨run, listed, rfl⟩ := List.mem_map.1 member
    exact (groupRuns_valid _ _).positive run listed
  first := by
    rw [built.offsets, Grid.keyGroups_allSlots some, head?_sumsBefore (by simp)]
  adjoining b offset size atOffset atSize := by
    have whole : (g.allSlots spheres).length = ((keyGroups Entry.bucket (g.allSlots spheres)).map List.length).sum := by
      rw [← List.length_flatten, flatten_keyGroups, length_radixSort]
    rw [built.offsets] at atOffset ⊢
    rw [built.sizes] at atSize
    rw [whole]
    exact getElem?_sumsBefore_succ atOffset atSize
  bucket b key atKey := by
    rw [built.keys] at atKey
    refine Buckets.bucket_eq_ok built.hold ?_
    rw [keyGroups, List.getElem?_map, atKey]
    rfl
  unused := by
    rw [built.keys, built.validBuckets, Grid.groupKeys_allSlots some, List.getElem?_concat_length]
  records := by
    rw [built.records_eq_ok, built.sorted, Grid.filter_radixSort_allSlots some]

end Index.Built

/-- An index that calls have led to and that can list pairs has just the
slots of its spheres, recorded with the grid of the last recording. They are
sorted and cut up into buckets, and the last bucket holds what is unused. -/
theorem Index.Reached.partition {s : Session} {last : Option (Grid Float32)} {memory : Memory}
    (reached : s.index.Reached last)
    (accepted : ∀ needed operation,
      (Call.listPairs.perform memory s).1 ≠ .error (.refused (.outOfOrder needed operation)))
    (objects : 0 < s.index.objectCount) :
    ∃ g slots, last = some g ∧ s.index.spheres.contents.length = s.index.objectCount ∧
      g.Fills s.index.spheres.contents slots ∧ slots.length = 8 * s.index.objectCount ∧
      s.index.Partitioned (slots ++ [Entry.sentinel]) ∧
      s.index.buckets.bucket s.index.validBuckets = .ok (slots.filter Entry.isSentinel ++ [Entry.sentinel]) := by
  obtain ⟨g, rfl, built⟩ := reached.kept.built (Call.stage_of_listPairs accepted)
  have count := built.count.symm
  have some : s.index.spheres.contents ≠ [] := fun none => by
    rw [none] at count
    exact Nat.ne_of_lt objects count
  have partitioned := built.partitioned some
  rw [Grid.allSlots_of_some some] at partitioned
  refine ⟨g, _, rfl, count, g.fills_slots _, ?_, partitioned, ?_⟩
  · rw [Grid.length_flatten_slots, count, Nat.mul_comm]
  · rw [partitioned.bucket _ _ partitioned.unused, List.filter_append]
    rfl

/-- The row has 24 slots and one more, cut up into buckets. -/
theorem Session.row_partition : ∃ g slots, Session.row.index.Reached (some g) ∧
    (Call.listPairs.perform .machine Session.row).1.isOk = true ∧ 0 < Session.row.index.objectCount ∧
    g.Fills Session.row.index.spheres.contents slots ∧ slots.length = 24 ∧
    Session.row.index.Partitioned (slots ++ [Entry.sentinel]) := by
  obtain ⟨_, listed, _⟩ := Session.row_lists
  have three : Session.row.index.objectCount = 3 := by decide +kernel
  obtain ⟨last, reached⟩ := Session.row_reached
  obtain ⟨g, slots, rfl, _, fills, length, partitioned, _⟩ := reached.partition (fun needed operation wrong => by
    rw [wrong] at listed
    cases listed) (three ▸ Nat.succ_pos 2)
  exact ⟨g, slots, reached, listed, three ▸ Nat.succ_pos 2, fills, by rw [length, three], partitioned⟩

end ContactGrid
