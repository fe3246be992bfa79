import ContactGrid.Proofs.Histories
import ContactGrid.Proofs.Reuse

namespace ContactGrid

/-- The eight cells of a block have eight buckets. -/
theorem CellHash.nodup_buckets (h : CellHash) (B : Block) : (B.cells.map h.bucket).Nodup := by
  refine B.nodup_cells.map_on fun c hc d hd same => ?_
  exact eq_of_bucket (Block.mem_cells.1 hc) (Block.mem_cells.1 hd) same

theorem foldl_max_le {ns : List Nat} {start bound : Nat} (first : start ≤ bound) (all : ∀ n ∈ ns, n ≤ bound) :
    ns.foldl max start ≤ bound := by
  induction ns generalizing start with
  | nil => exact first
  | cons n ns ih =>
    have next : max start n ≤ bound := Nat.max_le.2 ⟨first, all n List.mem_cons_self⟩
    exact ih next fun m member => all m (List.mem_cons_of_mem n member)

section Listed

variable {g : Grid Float32} {spheres : List (Sphere Float32)}

theorem Listed.length_le {entries : List Entry} (listed : Listed g spheres entries) :
    entries.length ≤ spheres.length := by
  have once : (entries.map (·.object)).Nodup := (List.pairwise_map.2 listed.ordered).imp Nat.ne_of_lt
  have below : entries.map (·.object) ⊆ List.range spheres.length := by
    intro i member
    obtain ⟨e, inside, rfl⟩ := List.mem_map.1 member
    obtain ⟨s, found, _⟩ := listed.recorded e inside
    exact List.mem_range.2 (List.getElem?_eq_some_iff.1 found).1
  have few := (List.subperm_of_subset once below).length_le
  rwa [List.length_map, List.length_range] at few

namespace Index.Built

variable {x : Index} {b : Nat}

theorem filter_sortedEntries (built : x.Built g spheres) (key : Nat) :
    x.sortedEntries.contents.filter (·.bucket == key) = g.slotsOf spheres key := by
  rw [built.sorted, filter_radixSort]
  rfl

theorem exists_bucket (built : x.Built g spheres) (valid : b < x.validBuckets) :
    ∃ entries, x.buckets.bucket b = .ok entries ∧ Listed g spheres entries := by
  rw [built.validBuckets] at valid
  have found : (g.usedBuckets spheres)[b]? = some (g.usedBuckets spheres)[b] := List.getElem?_eq_getElem valid
  have used := (Grid.mem_usedBuckets.1 (List.mem_of_getElem? found)).1
  exact ⟨_, Buckets.bucket_eq_ok built.hold (getElem?_keyGroups found), listed_slotsOf used⟩

theorem largestBucket_le (g : Grid Float32) (spheres : List (Sphere Float32)) (pairs : Nat) :
    (g.summary spheres pairs).largestBucket ≤ spheres.length := by
  refine foldl_max_le (Nat.zero_le _) fun size member => ?_
  obtain ⟨key, used, rfl⟩ := List.mem_map.1 member
  exact (listed_slotsOf (Grid.mem_usedBuckets.1 used).1).length_le

end Index.Built

end Listed

/-- An object never meets itself in a bucket. The cells of a block have a
bucket each, under either hash. Once an index is built, the records of every
bucket stand in the order of their objects, each object once, so that no
bucket has more of them than there are objects. -/
theorem Call.build_objects_apart :
    (∀ (h : CellHash) (B : Block), B.cells.length = 8 ∧ (B.cells.map h.bucket).Nodup) ∧
    ∀ (memory : Memory) (source : Source) (s t : Session) (reply : Reply),
      (Call.build source).perform memory s = (.ok reply, t) →
      (∀ key, key ≠ Entry.sentinelBucket →
        (t.index.sortedEntries.contents.filter (·.bucket == key)).Pairwise fun e f => e.object < f.object) ∧
      (∀ b < t.index.validBuckets, ∃ entries, t.index.buckets.bucket b = .ok entries ∧
        entries.Pairwise fun e f => e.object < f.object) ∧
      t.index.objectCount = source.count ∧
      ∃ summary, t.index.summary = .ok summary ∧ summary.largestBucket ≤ t.index.objectCount := by
  refine ⟨fun h B => ⟨rfl, h.nodup_buckets B⟩, fun memory source s t reply performed => ?_⟩
  have built : t.index.Built (s.index.runGrid source.toList) source.toList := by
    rcases @Call.perform_build memory source s with ⟨_, _, built⟩ | ⟨⟨e, _, failed⟩, _⟩
    · rwa [performed] at built
    · rw [performed] at failed
      cases failed
  have count : t.index.objectCount = source.count := built.count.trans source.length_toList
  refine ⟨fun key used => ?_, fun b valid => ?_, count, _, built.summary_eq_ok, ?_⟩
  · rw [built.filter_sortedEntries]
    exact (listed_slotsOf used).ordered
  · obtain ⟨entries, held, listed⟩ := built.exists_bucket valid
    exact ⟨entries, held, listed.ordered⟩
  · rw [built.count]
    exact Index.Built.largestBucket_le _ _ _

theorem Session.row_built : (Call.build .row).perform .machine ((Call.setOrigin ⟨0, 0, 0⟩).perform .machine {}).2 =
    (.ok .done, Session.row) := by
  have grouped : Session.row.index.stage = .grouped := Session.row_lists.1
  rw [Session.row] at grouped ⊢
  generalize ((Call.setOrigin ⟨0, 0, 0⟩).perform .machine {}).2 = s at grouped ⊢
  rcases @Call.perform_build .machine .row s with ⟨done, _⟩ | ⟨_, early⟩
  · exact Prod.ext done rfl
  · exact absurd grouped early

/-- In the first bucket of the row two objects meet, in their order. -/
theorem Call.build_objects_apart_row :
    (Call.build .row).perform .machine ((Call.setOrigin ⟨0, 0, 0⟩).perform .machine {}).2 = (.ok .done, Session.row) ∧
      0 ≠ Entry.sentinelBucket ∧
      (Session.row.index.sortedEntries.contents.filter (·.bucket == 0)).map (·.object) = [0, 2] ∧
      (Session.row.index.sortedEntries.contents.filter (·.bucket == 0)).Pairwise (fun e f => e.object < f.object) ∧
      (0 < Session.row.index.validBuckets ∧ ∃ entries, Session.row.index.buckets.bucket 0 = .ok entries ∧
        entries.Pairwise fun e f => e.object < f.object) ∧
      Session.row.index.objectCount = 3 ∧
      ∃ summary, Session.row.index.summary = .ok summary ∧ summary.largestBucket ≤ Session.row.index.objectCount := by
  have performed := Session.row_built
  obtain ⟨filtered, held, count, summed⟩ := build_objects_apart.2 _ _ _ _ _ performed
  have used : 0 ≠ Entry.sentinelBucket := by decide
  have valid : 0 < Session.row.index.validBuckets := by decide +kernel
  have meeting : (Session.row.index.sortedEntries.contents.filter (·.bucket == 0)).map (·.object) = [0, 2] := by
    decide +kernel
  exact ⟨performed, used, meeting, filtered 0 used, ⟨valid, held 0 valid⟩, count, summed⟩

end ContactGrid
