import ContactGrid.Proofs.BucketOrder
import ContactGrid.Proofs.Layout
import ContactGrid.Proofs.Partition
import Mathlib.Data.Finset.Card

namespace ContactGrid

/-- How the counts of a summary follow from the spheres, the grid that they
are recorded with and the sizes of the buckets. -/
structure Summary.Accounts (a : Summary) (g : Grid Float32) (spheres : List (Sphere Float32)) (sizes : List Nat) :
    Prop where
  slots : a.slots = 8 * spheres.length + 1
  /-- Each object fills as many of its slots as it has recorded cells,
  whatever they held. -/
  written : ∀ i s, spheres[i]? = some s → ∀ old, old.length = slotsPerObject → ∃ part, g.writeSlots s i old = .ok part ∧
    part.countP (fun e => !e.isSentinel) = (g.recordedCells s).length
  records : a.records = (spheres.map fun s => (g.recordedCells s).length).sum
  least : spheres.length ≤ a.records
  most : a.records ≤ 8 * spheres.length
  /-- One record of every object is in its home cell. -/
  homes : a.records = a.phantoms + spheres.length
  buckets : a.buckets = a.validBuckets + 1
  some : 1 ≤ a.validBuckets
  few : a.validBuckets ≤ a.records
  distinct : a.validBuckets = (spheres.flatMap fun s => (g.recordedCells s).map g.bucket).toFinset.card
  lengths : sizes.length = a.validBuckets
  sum : sizes.sum = a.records
  largest : sizes.max? = Option.some a.largestBucket

theorem max?_eq_some_foldl {ns : List Nat} (some : ns ≠ []) : ns.max? = Option.some (ns.foldl max 0) := by
  cases ns with
  | nil => exact absurd rfl some
  | cons n ns => rw [List.max?_cons', List.foldl_cons, Nat.zero_max]

theorem map_mapIdx {α β γ : Type} (h : β → γ) (f : Nat → α → β) (xs : List α) :
    (xs.mapIdx f).map h = xs.mapIdx fun i x => h (f i x) := by
  rw [List.mapIdx_eq_zipIdx_map, List.map_map, List.mapIdx_eq_zipIdx_map]
  rfl

theorem mapIdx_eq_map {α β : Type} (f : α → β) (xs : List α) : (xs.mapIdx fun _ x => f x) = xs.map f := by
  refine List.ext_getElem? fun i => ?_
  rw [List.getElem?_mapIdx, List.getElem?_map]

namespace Grid

variable {g : Grid Float32} {spheres : List (Sphere Float32)}

theorem filter_unused (n : Nat) : (List.replicate n Entry.sentinel).filter (fun e => !e.isSentinel) = [] := by
  refine List.filter_eq_nil_iff.2 fun e member => ?_
  rw [List.eq_of_mem_replicate member]
  decide

theorem filter_slots (g : Grid Float32) (s : Sphere Float32) (object : Nat) :
    (g.slots s object).filter (fun e => !e.isSentinel) = g.entries s object := by
  have used : (g.entries s object).filter (fun e => !e.isSentinel) = g.entries s object :=
    List.filter_eq_self.2 (List.all_eq_true.1 (all_valid g s object))
  rw [slots, List.filter_append, used, filter_unused, List.append_nil]

/-- Sorting only moves the records of the objects. -/
theorem perm_records (some : spheres ≠ []) :
    (g.records spheres).Perm (spheres.mapIdx fun i s => g.entries s i).flatten := by
  have used : (g.allSlots spheres).filter (fun e => !e.isSentinel) =
      (spheres.mapIdx fun i s => g.entries s i).flatten := by
    have last : [Entry.sentinel].filter (fun e => !e.isSentinel) = [] := filter_unused 1
    rw [allSlots_of_some some, List.filter_append, last, List.append_nil, List.filter_flatten, map_mapIdx]
    simp only [filter_slots]
  -- The records are what is in use of the sorted slots, and sorting permutes.
  rw [← filter_radixSort_allSlots some, ← used, radixSort_eq_mergeSort]
  exact (List.mergeSort_perm _ _).filter _

theorem length_entries_eq (g : Grid Float32) (s : Sphere Float32) (object : Nat) :
    (g.entries s object).length = (g.recordedCells s).length := by
  rw [← map_cell_entries g s object, List.length_map]

theorem countP_isHome (g : Grid Float32) (s : Sphere Float32) (object : Nat) :
    (g.entries s object).countP Entry.isHome = 1 := by
  calc (g.entries s object).countP Entry.isHome
    _ = (g.entries s object).countP (fun e => e.cell == g.cellAt s.center) :=
      List.countP_congr fun e member => by rw [isHome_iff member, beq_iff_eq]
    _ = ((g.entries s object).map (·.cell)).count (g.cellAt s.center) := by
      rw [List.count, List.countP_map]
      rfl
    _ = (g.recordedCells s).count (g.cellAt s.center) := by rw [map_cell_entries]
    _ = 1 := List.count_eq_one_of_mem (recordedCells_nodup g s) List.mem_cons_self

theorem length_records (some : spheres ≠ []) :
    (g.records spheres).length = (spheres.map fun s => (g.recordedCells s).length).sum := by
  rw [(perm_records some).length_eq, List.length_flatten, map_mapIdx]
  simp only [length_entries_eq, mapIdx_eq_map]

theorem homes_records (some : spheres ≠ []) : (g.records spheres).countP Entry.isHome = spheres.length := by
  rw [(perm_records some).countP_eq, List.countP_flatten, map_mapIdx]
  simp only [countP_isHome, mapIdx_eq_map, List.map_const', List.sum_replicate_nat, Nat.mul_one]

/-- Records are phantoms or home. -/
theorem length_eq_phantoms_add (some : spheres ≠ []) :
    (g.records spheres).length = ((g.records spheres).filter Entry.isPhantom).length + spheres.length := by
  have phantom : (fun e : Entry => decide ¬e.isHome = true) = Entry.isPhantom := by
    funext e
    rw [Entry.isPhantom, decide_not, Bool.decide_eq_true]
  rw [List.length_eq_countP_add_countP Entry.isHome, homes_records some, Nat.add_comm, phantom,
    List.countP_eq_length_filter]

theorem mem_usedBuckets_iff_recorded {k : Nat} :
    k ∈ g.usedBuckets spheres ↔ k ∈ spheres.flatMap fun s => (g.recordedCells s).map g.bucket := by
  rw [mem_usedBuckets, List.mem_flatMap]
  constructor
  · rintro ⟨used, e, member, rfl⟩
    obtain ⟨s, found, inside⟩ := (mem_allSlots used).1 member
    refine ⟨s, List.mem_of_getElem? found, List.mem_map.2 ⟨e.cell, cell_of_mem_entries inside, ?_⟩⟩
    exact (bucket_of_mem_entries inside).symm
  · rintro ⟨s, member, filed⟩
    obtain ⟨c, recorded, rfl⟩ := List.mem_map.1 filed
    obtain ⟨i, found⟩ := List.getElem?_of_mem member
    obtain ⟨e, inside, rfl⟩ := exists_entry recorded i
    have used := not_sentinel_of_mem_entries inside
    have same := bucket_of_mem_entries inside
    refine ⟨same ▸ used, e, (mem_allSlots used).2 ⟨s, ?_, ?_⟩, same⟩
    · rwa [object_of_mem_entries inside]
    · rwa [object_of_mem_entries inside]

theorem length_usedBuckets (g : Grid Float32) (spheres : List (Sphere Float32)) :
    (g.usedBuckets spheres).length = (spheres.flatMap fun s => (g.recordedCells s).map g.bucket).toFinset.card := by
  rw [← List.toFinset_card_of_nodup (nodup_usedBuckets g spheres)]
  refine congrArg Finset.card (Finset.ext fun k => ?_)
  rw [List.mem_toFinset, List.mem_toFinset, mem_usedBuckets_iff_recorded]

/-- Sizes of the buckets in use, in the order of buckets. -/
def bucketSizes (g : Grid Float32) (spheres : List (Sphere Float32)) : List Nat :=
  (g.usedBuckets spheres).map fun k => (g.slotsOf spheres k).length

theorem sum_bucketSizes (g : Grid Float32) (spheres : List (Sphere Float32)) :
    (g.bucketSizes spheres).sum = (g.records spheres).length := by
  rw [records, List.length_flatMap]
  rfl

theorem bucketSizes_pos {size : Nat} (member : size ∈ g.bucketSizes spheres) : 1 ≤ size := by
  obtain ⟨k, used, rfl⟩ := List.mem_map.1 member
  obtain ⟨_, e, slot, filed⟩ := mem_usedBuckets.1 used
  exact List.length_pos_of_mem (mem_slotsOf.2 ⟨slot, filed⟩)

theorem accounts (some : spheres ≠ []) (pairs : Nat) :
    (g.summary spheres pairs).Accounts g spheres (g.bucketSizes spheres) where
  slots := by rw [summary, length_allSlots some, Nat.mul_comm]
  written i s _ old eight := by
    refine ⟨_, writeSlots_eq_ok g s i eight, ?_⟩
    rw [List.countP_eq_length_filter, filter_slots, length_entries_eq]
  records := length_records some
  least := by
    rw [summary, length_eq_phantoms_add some]
    exact Nat.le_add_left ..
  most := by
    rw [summary, length_records some, Nat.mul_comm, ← List.length_map fun s => (g.recordedCells s).length]
    refine List.sum_le_card_nsmul _ 8 fun n member => ?_
    obtain ⟨s, _, rfl⟩ := List.mem_map.1 member
    exact length_recordedCells g s
  homes := length_eq_phantoms_add some
  buckets := by
    rw [summary, keyGroups_allSlots some, List.length_append, List.length_map]
    rfl
  some := List.length_pos_iff.2 fun none => some (usedBuckets_eq_nil.1 none)
  few := by
    have sizes := List.length_le_sum_of_one_le (g.bucketSizes spheres) fun _ => bucketSizes_pos
    rwa [sum_bucketSizes, bucketSizes, List.length_map] at sizes
  distinct := length_usedBuckets g spheres
  lengths := List.length_map _
  sum := sum_bucketSizes g spheres
  largest := max?_eq_some_foldl fun none => some (usedBuckets_eq_nil.1 (List.map_eq_nil_iff.1 none))

end Grid

namespace Index.Built

variable {x : Index} {g : Grid Float32} {spheres : List (Sphere Float32)}

theorem validSizes (built : x.Built g spheres) (some : spheres ≠ []) :
    x.bucketSizes.contents.take x.validBuckets = g.bucketSizes spheres := by
  rw [built.sizes, built.validBuckets, Grid.keyGroups_allSlots some, List.map_append, List.take_left' (by simp),
    List.map_map]
  rfl

end Index.Built

namespace Call

variable {memory : Memory} {source : Source} {s t : Session} {reply : Reply}

theorem built_of_build (performed : (Call.build source).perform memory s = (.ok reply, t)) :
    t.index.Built t.index.grid source.toList := by
  have leads : Leads ((Call.build source).run memory) s (fun _ t => t.index.Built t.index.grid source.toList)
      fun _ _ => True := by
    rw [run, Leads.bind_iff]
    refine Index.leads_build (fun _ t built same => ?_) fun _ _ _ _ => trivial
    rw [← same] at built
    exact built
  exact (Leads.iff_of_ok performed).1 leads

/-- Once an index is built of some objects, its summary and the sizes of its
buckets account for every record. -/
theorem build_accounts (objects : 0 < source.count)
    (performed : (Call.build source).perform memory s = (.ok reply, t)) :
    ∃ summary, t.index.summary = .ok summary ∧
      summary.Accounts t.index.grid source.toList (t.index.bucketSizes.contents.take summary.validBuckets) := by
  have built := built_of_build performed
  have some : source.toList ≠ [] := by
    rw [← List.length_pos_iff, Source.length_toList]
    exact objects
  have valid : (t.index.grid.summary source.toList t.index.pairCount).validBuckets = t.index.validBuckets :=
    built.validBuckets.symm
  refine ⟨_, built.summary_eq_ok, ?_⟩
  rw [valid, built.validSizes some]
  exact Grid.accounts some _

end Call

/-- The row of three is built, and all of its 25 slots are accounted for. -/
theorem Call.build_accounts_row :
    0 < Source.row.count ∧
      (Call.build .row).perform .machine ((Call.setOrigin ⟨0, 0, 0⟩).perform .machine {}).2 = (.ok .done, Session.row) ∧
      ∃ summary, Session.row.index.summary = .ok summary ∧
        summary.Accounts Session.row.index.grid Source.row.toList
          (Session.row.index.bucketSizes.contents.take summary.validBuckets) ∧
        summary.slots = 25 := by
  have objects : 0 < Source.row.count := by decide
  obtain ⟨summary, summed, accounts⟩ := build_accounts objects Session.row_built
  exact ⟨objects, Session.row_built, summary, summed, accounts, accounts.slots⟩

end ContactGrid
