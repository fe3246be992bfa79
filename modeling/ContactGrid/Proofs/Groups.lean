import ContactGrid.Proofs.RunEncoding
import ContactGrid.Proofs.StableSort
import Mathlib.Data.List.Dedup

namespace ContactGrid

variable {α : Type} {key : α → Nat} {xs : List α}

/-- The keys that occur, each once and in order. -/
def groupKeys (key : α → Nat) (xs : List α) : List Nat :=
  ((radixSort key xs).map key).dedup

/-- For each key that occurs the elements that have it, in their order. -/
def keyGroups (key : α → Nat) (xs : List α) : List (List α) :=
  (groupKeys key xs).map fun k => xs.filter (key · == k)

/-- Keys and sizes of the groups. -/
def groupRuns (key : α → Nat) (xs : List α) : List (Nat × Nat) :=
  (groupKeys key xs).map fun k => (k, (xs.filter (key · == k)).length)

theorem mem_groupKeys {k : Nat} : k ∈ groupKeys key xs ↔ ∃ x ∈ xs, key x = k := by
  simp [groupKeys, mem_radixSort]

theorem pairwise_groupKeys (key : α → Nat) (xs : List α) : (groupKeys key xs).Pairwise (· < ·) := by
  have sorted : ((radixSort key xs).map key).Pairwise (· ≤ ·) := List.pairwise_map.2 (pairwise_radixSort key xs)
  have ordered : (groupKeys key xs).Pairwise (· ≤ ·) := sorted.sublist (List.dedup_sublist _)
  exact (ordered.and (List.nodup_dedup _)).imp fun both => Nat.lt_of_le_of_ne both.1 both.2

theorem filter_flatMap_filter {ks : List Nat} (once : ks.Nodup) (k : Nat) :
    (ks.flatMap fun l => xs.filter (key · == l)).filter (key · == k) =
      if k ∈ ks then xs.filter (key · == k) else [] := by
  induction ks with
  | nil => rfl
  | cons l ks ih =>
    obtain ⟨fresh, once⟩ := List.nodup_cons.1 once
    rw [List.flatMap_cons, List.filter_append, ih once, List.filter_filter]
    by_cases same : k = l
    · subst same
      simp [fresh]
    · have other : ∀ x, (key x == k && key x == l) = false := by
        intro x
        simp only [Bool.and_eq_false_iff, beq_eq_false_iff_ne]
        omega
      simp [other, same]

/-- The groups one after another are the sorted list. -/
theorem flatten_keyGroups (key : α → Nat) (xs : List α) : (keyGroups key xs).flatten = radixSort key xs := by
  have once : (groupKeys key xs).Nodup := (pairwise_groupKeys key xs).imp Nat.ne_of_lt
  refine eq_of_sorted_of_filter ?_ (pairwise_radixSort key xs) fun k => ?_
  · rw [List.pairwise_flatten, keyGroups, List.pairwise_map]
    constructor
    · intro part member
      obtain ⟨k, _, rfl⟩ := List.mem_map.1 member
      refine List.pairwise_of_forall_mem_list fun x hx y hy => ?_
      simp only [List.mem_filter, beq_iff_eq] at hx hy
      omega
    · refine (pairwise_groupKeys key xs).imp fun {k l} before x hx y hy => ?_
      simp only [List.mem_filter, beq_iff_eq] at hx hy
      omega
  · rw [filter_radixSort, keyGroups, ← List.flatMap_def, filter_flatMap_filter once]
    by_cases occurs : k ∈ groupKeys key xs
    · rw [if_pos occurs]
    · rw [if_neg occurs, eq_comm, List.filter_eq_nil_iff]
      intro x member same
      exact occurs (mem_groupKeys.2 ⟨x, member, by simpa using same⟩)

theorem groupRuns_fst (key : α → Nat) (xs : List α) : (groupRuns key xs).map Prod.fst = groupKeys key xs := by
  simp [groupRuns, Function.comp_def]

theorem groupRuns_snd (key : α → Nat) (xs : List α) :
    (groupRuns key xs).map Prod.snd = (keyGroups key xs).map List.length := by
  simp [groupRuns, keyGroups, Function.comp_def]

theorem groupRuns_valid (key : α → Nat) (xs : List α) : Runs (groupRuns key xs) where
  positive r member := by
    obtain ⟨k, occurs, rfl⟩ := List.mem_map.1 member
    obtain ⟨x, present, same⟩ := mem_groupKeys.1 occurs
    exact List.length_pos_of_mem (List.mem_filter.2 ⟨present, by simpa using same⟩)
  distinct := by
    rw [groupRuns, List.isChain_map]
    exact ((pairwise_groupKeys key xs).imp Nat.ne_of_lt).isChain

/-- The keys of the sorted list, read as runs. -/
theorem expand_groupRuns (key : α → Nat) (xs : List α) :
    expand (groupRuns key xs) = (radixSort key xs).map key := by
  rw [← flatten_keyGroups, List.map_flatten, keyGroups, List.map_map, expand, groupRuns, List.flatMap_def, List.map_map]
  congr 1
  refine List.map_congr_left fun k _ => ?_
  refine (List.eq_replicate_iff.2 ⟨List.length_map _, fun l member => ?_⟩).symm
  obtain ⟨x, present, rfl⟩ := List.mem_map.1 member
  simpa using (List.mem_filter.1 present).2

end ContactGrid
