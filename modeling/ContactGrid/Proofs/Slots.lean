import ContactGrid.Proofs.BucketCode
import ContactGrid.Proofs.Groups
import ContactGrid.Proofs.Ownership

namespace ContactGrid

theorem clampCell_bounds (i : Int) : -2147483646 ≤ clampCell i ∧ clampCell i ≤ 2147483646 := by
  unfold clampCell cellLimit
  omega

theorem Dyadic.cell_bounds (d : Dyadic) : -2147483646 ≤ d.cell ∧ d.cell ≤ 2147483646 := by
  unfold Dyadic.cell
  split
  · decide
  · split <;> decide
  · exact clampCell_bounds _

/-- The home cell is a machine cell. -/
def Block.Bounded (B : Block) : Prop :=
  ∀ i ∈ [B.home.x, B.home.y, B.home.z], -cellLimit ≤ i ∧ i ≤ cellLimit

instance (B : Block) : Decidable B.Bounded :=
  inferInstanceAs (Decidable (∀ i ∈ [B.home.x, B.home.y, B.home.z], -cellLimit ≤ i ∧ i ≤ cellLimit))

/-- Machine cells stop short of the range of signed words, so that all cells
of a block fit. -/
theorem Block.Bounded.signed {B : Block} (bounded : B.Bounded) {c : Cell} (member : c ∈ B) :
    c.all inSignedWord = true := by
  obtain ⟨x, y, z⟩ := member
  have limit : cellLimit = 2147483646 := rfl
  have nearX := bounded B.home.x (by simp)
  have nearY := bounded B.home.y (by simp)
  have nearZ := bounded B.home.z (by simp)
  have unitX := B.unit_x
  have unitY := B.unit_y
  have unitZ := B.unit_z
  simp only [Vec.all, inSignedWord, Bool.and_eq_true, decide_eq_true_eq]
  omega

theorem Block.adjacent_home {B : Block} {c : Cell} (member : c ∈ B) : Grid.adjacent c B.home = true := by
  obtain ⟨x, y, z⟩ := member
  have unitX := B.unit_x
  have unitY := B.unit_y
  have unitZ := B.unit_z
  simp only [Grid.adjacent, Vec.all, Bool.and_eq_true, decide_eq_true_eq]
  simp only [Vec.sub_x, Vec.sub_y, Vec.sub_z]
  omega

namespace Grid

section Entries

variable {α : Type} [Scalar α] {g : Grid α} {s : Sphere α} {object : Nat} {e : Entry}

theorem mem_entries :
    e ∈ g.entries s object ↔ ∃ c ∈ g.recordedCells s,
      e = .occupying object (g.bucket c) c (g.block s).home (g.block s).direction (parityMask (g.recordedCells s)) := by
  simp only [entries, List.mem_map, eq_comm]
  rfl

theorem object_of_mem_entries (member : e ∈ g.entries s object) : e.object = object := by
  obtain ⟨c, _, rfl⟩ := mem_entries.1 member
  rfl

theorem cell_of_mem_entries (member : e ∈ g.entries s object) : e.cell ∈ g.recordedCells s := by
  obtain ⟨c, recorded, rfl⟩ := mem_entries.1 member
  exact recorded

theorem bucket_of_mem_entries (member : e ∈ g.entries s object) : e.bucket = g.bucket e.cell := by
  obtain ⟨c, _, rfl⟩ := mem_entries.1 member
  rfl

theorem exists_entry {c : Cell} (recorded : c ∈ g.recordedCells s) (object : Nat) :
    ∃ e ∈ g.entries s object, e.cell = c :=
  ⟨_, mem_entries.2 ⟨c, recorded, rfl⟩, rfl⟩

theorem not_sentinel_of_mem_entries (member : e ∈ g.entries s object) : e.bucket ≠ Entry.sentinelBucket := by
  have bound := g.hash.bucket_lt e.cell
  have sentinel : Entry.sentinelBucket = 4294967295 := rfl
  rw [bucket_of_mem_entries member, bucket, sentinel]
  omega

theorem length_entries (g : Grid α) (s : Sphere α) (object : Nat) : (g.entries s object).length ≤ 8 := by
  rw [entries, List.length_map]
  exact length_recordedCells g s

theorem pairwise_entries (g : Grid α) (s : Sphere α) (object : Nat) :
    (g.entries s object).Pairwise fun e f => e.bucket ≠ f.bucket := by
  rw [entries, List.pairwise_map]
  refine (recordedCells_nodup g s).imp_of_mem fun {c d} hc hd differ same => differ ?_
  exact CellHash.eq_of_bucket (recordedCells_mem hc) (recordedCells_mem hd) same

theorem all_valid (g : Grid α) (s : Sphere α) (object : Nat) :
    ((g.entries s object).all fun e => !e.isSentinel) = true := by
  rw [List.all_eq_true]
  intro e member
  rw [Entry.isSentinel, Bool.not_eq_true', decide_eq_false_iff_not]
  exact not_sentinel_of_mem_entries member

theorem all_adjacent (g : Grid α) (s : Sphere α) (object : Nat) :
    ((g.entries s object).all fun e => adjacent e.cell (g.cellAt s.center)) = true := by
  rw [List.all_eq_true]
  intro e member
  have inBlock : e.cell ∈ g.block s := recordedCells_mem (cell_of_mem_entries member)
  have near := Block.adjacent_home inBlock
  exact near

theorem tagsFit_eq_true (g : Grid α) (s : Sphere α) : g.tagsFit s = true := by
  refine List.all_eq_true.2 fun c _ => ?_
  have mask := parityMask_lt (g.recordedCells s)
  have direction := Entry.directionBits_lt (g.direction s)
  simp [Tag.fits, Cell.parity_lt, mask, direction]

/-- The slots of an object: its records first, then unused ones. -/
def slots (g : Grid α) (s : Sphere α) (object : Nat) : List Entry :=
  g.entries s object ++ List.replicate (8 - (g.entries s object).length) Entry.sentinel

theorem length_slots (g : Grid α) (s : Sphere α) (object : Nat) : (g.slots s object).length = 8 := by
  have room := length_entries g s object
  rw [slots, List.length_append, List.length_replicate]
  omega

theorem mem_slots (valid : e.bucket ≠ Entry.sentinelBucket) : e ∈ g.slots s object ↔ e ∈ g.entries s object := by
  rw [slots, List.mem_append]
  refine or_iff_left fun unused => valid ?_
  rw [List.eq_of_mem_replicate unused]
  rfl

end Entries

theorem bounded_block (g : Grid Float32) (s : Sphere Float32) : (g.block s).Bounded := by
  simp only [Block.Bounded, List.mem_cons, List.not_mem_nil, or_false, forall_eq_or_imp, forall_eq]
  exact ⟨Dyadic.cell_bounds _, Dyadic.cell_bounds _, Dyadic.cell_bounds _⟩

theorem all_signed (g : Grid Float32) (s : Sphere Float32) :
    (g.cellAt s.center :: g.neighbors s).all (·.all inSignedWord) = true := by
  rw [List.all_eq_true]
  intro c member
  exact (bounded_block g s).signed (mem_block.2 member)

/-- Whatever the eight slots held, they come to hold the records of the
object and no part of the check fails. -/
theorem writeSlots_eq_ok (g : Grid Float32) (s : Sphere Float32) (object : Nat) {old : List Entry}
    (eight : old.length = 8) : g.writeSlots s object old = .ok (g.slots s object) := by
  have unused : (old.drop (g.entries s object).length).map (fun _ => Entry.sentinel) =
      List.replicate (8 - (g.entries s object).length) Entry.sentinel := by
    rw [List.map_const', List.length_drop, eight]
  unfold writeSlots
  rw [Fault.check_eq_ok (decide_eq_true eight)]
  change (if !(g.cellAt s.center :: g.neighbors s).all (·.all inSignedWord) then _ else _) = _
  rw [all_signed]
  change (Fault.check _ _ >>= fun _ => Fault.check _ _ >>= fun _ => Fault.check _ _ >>= fun _ => _) = _
  rw [Fault.check_eq_ok (all_valid g s object)]
  change (Fault.check _ _ >>= fun _ => Fault.check _ _ >>= fun _ => _) = _
  rw [Fault.check_eq_ok (all_adjacent g s object)]
  change (Fault.check _ _ >>= fun _ => _) = _
  rw [Fault.check_eq_ok (g.tagsFit_eq_true s)]
  change Except.ok (g.entries s object ++ _) = _
  rw [unused]
  rfl

/-- The slots of all objects in order, and one unused slot behind them.
Without objects there are no slots. -/
def allSlots (g : Grid Float32) (spheres : List (Sphere Float32)) : List Entry :=
  if spheres.isEmpty then [] else (spheres.mapIdx fun i s => g.slots s i).flatten ++ [Entry.sentinel]

section AllSlots

variable {g : Grid Float32} {spheres : List (Sphere Float32)} {e : Entry}

theorem allSlots_of_some (some : spheres ≠ []) :
    g.allSlots spheres = (spheres.mapIdx fun i s => g.slots s i).flatten ++ [Entry.sentinel] := by
  rw [allSlots, if_neg (by simpa using some)]

theorem map_length_slots (g : Grid Float32) (spheres : List (Sphere Float32)) :
    (spheres.mapIdx fun i s => g.slots s i).map List.length = List.replicate spheres.length 8 := by
  refine List.eq_replicate_iff.2 ⟨by simp, fun n member => ?_⟩
  obtain ⟨part, listed, rfl⟩ := List.mem_map.1 member
  obtain ⟨i, within, rfl⟩ := List.mem_mapIdx.1 listed
  exact length_slots g _ i

theorem length_flatten_slots (g : Grid Float32) (spheres : List (Sphere Float32)) :
    (spheres.mapIdx fun i s => g.slots s i).flatten.length = spheres.length * 8 := by
  rw [List.length_flatten, map_length_slots, List.sum_replicate_nat]

theorem length_allSlots (some : spheres ≠ []) : (g.allSlots spheres).length = spheres.length * 8 + 1 := by
  rw [allSlots_of_some some, List.length_append, length_flatten_slots, List.length_singleton]

/-- The used slots are the records of the objects. -/
theorem mem_allSlots (used : e.bucket ≠ Entry.sentinelBucket) :
    e ∈ g.allSlots spheres ↔ ∃ s, spheres[e.object]? = some s ∧ e ∈ g.entries s e.object := by
  by_cases none : spheres = []
  · simp [none, allSlots]
  rw [allSlots_of_some none, List.mem_append, List.mem_singleton, List.mem_flatten]
  constructor
  · rintro (⟨part, member, inside⟩ | unused)
    · obtain ⟨i, within, rfl⟩ := List.mem_mapIdx.1 member
      rw [mem_slots used] at inside
      obtain rfl := object_of_mem_entries inside
      exact ⟨_, List.getElem?_eq_getElem within, inside⟩
    · exact absurd (congrArg Entry.bucket unused) used
  · rintro ⟨s, found, inside⟩
    obtain ⟨within, rfl⟩ := List.getElem?_eq_some_iff.1 found
    exact Or.inl ⟨_, List.mem_mapIdx.2 ⟨e.object, within, rfl⟩, (mem_slots used).2 inside⟩

theorem bucket_le_of_mem_allSlots (member : e ∈ g.allSlots spheres) : e.bucket ≤ Entry.sentinelBucket := by
  by_cases used : e.bucket = Entry.sentinelBucket
  · exact Nat.le_of_eq used
  · obtain ⟨s, _, inside⟩ := (mem_allSlots used).1 member
    have small := g.hash.bucket_lt e.cell
    rw [bucket_of_mem_entries inside]
    have sentinel : Entry.sentinelBucket = 4294967295 := rfl
    rw [bucket, sentinel]
    omega

theorem pairwise_slots (g : Grid Float32) (s : Sphere Float32) (object : Nat) :
    (g.slots s object).Pairwise fun e f => e.bucket ≠ Entry.sentinelBucket → e.bucket ≠ f.bucket := by
  rw [slots, List.pairwise_append]
  refine ⟨?_, ?_, ?_⟩
  · exact (pairwise_entries g s object).imp fun {e f} differ (_ : e.bucket ≠ Entry.sentinelBucket) => differ
  · refine List.pairwise_of_forall_mem_list fun e unused _ _ used => absurd ?_ used
    rw [List.eq_of_mem_replicate unused]
    rfl
  · intro e _ f unused used same
    rw [List.eq_of_mem_replicate unused] at same
    exact used same

theorem pairwise_allSlots (g : Grid Float32) (spheres : List (Sphere Float32)) :
    (g.allSlots spheres).Pairwise fun e f =>
      e.bucket ≠ Entry.sentinelBucket → e.bucket = f.bucket → e.object < f.object := by
  by_cases none : spheres = []
  · simp [none, allSlots]
  rw [allSlots_of_some none, List.pairwise_append, List.pairwise_flatten]
  refine ⟨⟨?_, ?_⟩, List.pairwise_singleton _ _, ?_⟩
  · intro part member
    obtain ⟨i, within, rfl⟩ := List.mem_mapIdx.1 member
    exact (pairwise_slots g _ i).imp fun differ used same => absurd same (differ used)
  · rw [List.pairwise_iff_getElem]
    intro i j hi hj before e he f hf used same
    rw [List.getElem_mapIdx] at he hf
    rw [object_of_mem_entries ((mem_slots used).1 he), object_of_mem_entries ((mem_slots (same ▸ used)).1 hf)]
    exact before
  · intro e _ f last used same
    rw [List.mem_singleton.1 last] at same
    exact absurd same used

/-- The slots that are filed under one bucket, in their order. -/
def slotsOf (g : Grid Float32) (spheres : List (Sphere Float32)) (k : Nat) : List Entry :=
  (g.allSlots spheres).filter (·.bucket == k)

theorem mem_slotsOf {k : Nat} : e ∈ g.slotsOf spheres k ↔ e ∈ g.allSlots spheres ∧ e.bucket = k := by
  rw [slotsOf, List.mem_filter, beq_iff_eq]

def usedBuckets (g : Grid Float32) (spheres : List (Sphere Float32)) : List Nat :=
  (groupKeys Entry.bucket (g.allSlots spheres)).dropLast

/-- The bucket of unused slots is there and comes last. -/
theorem groupKeys_allSlots (some : spheres ≠ []) :
    groupKeys Entry.bucket (g.allSlots spheres) = g.usedBuckets spheres ++ [Entry.sentinelBucket] := by
  have present : Entry.sentinelBucket ∈ groupKeys Entry.bucket (g.allSlots spheres) := by
    rw [mem_groupKeys, allSlots_of_some some]
    exact ⟨Entry.sentinel, by simp, rfl⟩
  have nonempty := List.ne_nil_of_mem present
  have ordered := pairwise_groupKeys Entry.bucket (g.allSlots spheres)
  have last : (groupKeys Entry.bucket (g.allSlots spheres)).getLast nonempty = Entry.sentinelBucket := by
    have atMost : (groupKeys Entry.bucket (g.allSlots spheres)).getLast nonempty ≤ Entry.sentinelBucket := by
      obtain ⟨e, member, same⟩ := mem_groupKeys.1 (List.getLast_mem nonempty)
      rw [← same]
      exact bucket_le_of_mem_allSlots member
    rw [← List.dropLast_append_getLast nonempty, List.mem_append, List.mem_singleton] at present
    rcases present with early | same
    · rw [← List.dropLast_append_getLast nonempty, List.pairwise_append] at ordered
      have above := ordered.2.2 _ early _ (List.mem_singleton_self _)
      omega
    · exact same.symm
  rw [usedBuckets, ← last, List.dropLast_append_getLast]

theorem keyGroups_allSlots (some : spheres ≠ []) :
    keyGroups Entry.bucket (g.allSlots spheres) =
      (g.usedBuckets spheres).map (g.slotsOf spheres) ++ [g.slotsOf spheres Entry.sentinelBucket] := by
  rw [keyGroups, groupKeys_allSlots some, List.map_append]
  rfl

theorem mem_usedBuckets {k : Nat} :
    k ∈ g.usedBuckets spheres ↔ k ≠ Entry.sentinelBucket ∧ ∃ e ∈ g.allSlots spheres, e.bucket = k := by
  by_cases none : spheres = []
  · simp [none, usedBuckets, allSlots, groupKeys, radixSort, keyBits]
  have ordered := pairwise_groupKeys Entry.bucket (g.allSlots spheres)
  rw [groupKeys_allSlots none, List.pairwise_append] at ordered
  rw [← mem_groupKeys, groupKeys_allSlots none, List.mem_append, List.mem_singleton]
  constructor
  · intro used
    exact ⟨Nat.ne_of_lt (ordered.2.2 k used _ (List.mem_singleton_self _)), Or.inl used⟩
  · rintro ⟨differ, used | same⟩
    · exact used
    · exact absurd same differ

/-- Every object has at least the record of its home cell. -/
theorem usedBuckets_eq_nil : g.usedBuckets spheres = [] ↔ spheres = [] := by
  constructor
  · intro none
    cases spheres with
    | nil => rfl
    | cons s rest =>
      obtain ⟨e, recorded, _⟩ := exists_entry (g := g) (s := s) List.mem_cons_self 0
      have used := not_sentinel_of_mem_entries recorded
      have present : e ∈ g.allSlots (s :: rest) := by
        rw [mem_allSlots used, object_of_mem_entries recorded]
        exact ⟨s, rfl, recorded⟩
      have member := mem_usedBuckets.2 ⟨used, e, present, rfl⟩
      rw [none] at member
      cases member
  · rintro rfl
    rfl

theorem nodup_usedBuckets (g : Grid Float32) (spheres : List (Sphere Float32)) : (g.usedBuckets spheres).Nodup :=
  ((pairwise_groupKeys _ _).sublist (List.dropLast_sublist _)).imp Nat.ne_of_lt

end AllSlots

end Grid

end ContactGrid
