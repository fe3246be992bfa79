import ContactGrid.Proofs.Audit
import Mathlib.Data.Finset.Card
import Mathlib.Data.List.Nodup
import Std.Data.HashSet.Lemmas

namespace ContactGrid

theorem withNext_cons_cons (p q : Pair) (rest : List Pair) :
    withNext (p :: q :: rest) = (p, some q) :: withNext (q :: rest) := rfl

theorem distinct_cons_cons (p q : Pair) (rest : List Pair) :
    distinct (p :: q :: rest) = if q = p then distinct (q :: rest) else p :: distinct (q :: rest) := by
  by_cases same : q = p <;>
    simp only [distinct, withNext_cons_cons, List.filterMap_cons, Option.some.injEq, same, if_true, if_false]

theorem repeated_cons_cons (p q : Pair) (rest : List Pair) :
    repeated (p :: q :: rest) = if q = p then p :: repeated (q :: rest) else repeated (q :: rest) := by
  by_cases same : q = p <;>
    simp only [repeated, withNext_cons_cons, List.filterMap_cons, Option.some.injEq, same, if_true, if_false]

/-- The last of equal neighbors stays. -/
theorem mem_distinct {pairs : List Pair} {p : Pair} : p ∈ distinct pairs ↔ p ∈ pairs := by
  induction pairs with
  | nil => rfl
  | cons q pairs ih =>
    cases pairs with
    | nil => simp [distinct, withNext]
    | cons r rest =>
      rw [distinct_cons_cons, List.mem_cons, ← ih]
      by_cases same : r = q
      · subst same
        rw [if_pos rfl, ih]
        exact (or_iff_right_of_imp fun equal => equal ▸ List.mem_cons_self).symm
      · rw [if_neg same]
        exact List.mem_cons

theorem mem_repeated_cons_cons {p q r : Pair} {rest : List Pair} :
    p ∈ repeated (q :: r :: rest) ↔ r = q ∧ p = q ∨ p ∈ repeated (r :: rest) := by
  rw [repeated_cons_cons]
  by_cases same : r = q
  · rw [if_pos same, List.mem_cons, and_iff_right same]
  · rw [if_neg same]
    exact (or_iff_right fun both => same both.1).symm

/-- In a list in order, what stands there more than once stands beside
itself. -/
theorem mem_repeated {pairs : List Pair} {p : Pair}
    (sorted : pairs.Pairwise fun p q => p.a < q.a ∨ p.a = q.a ∧ p.b ≤ q.b) :
    p ∈ repeated pairs ↔ 1 < pairs.count p := by
  induction pairs with
  | nil => simp [repeated, withNext]
  | cons q pairs ih =>
    obtain ⟨first, later⟩ := List.pairwise_cons.1 sorted
    cases pairs with
    | nil =>
      have single : [q].count p ≤ 1 := List.count_le_length
      simp [repeated, withNext]
      omega
    | cons r rest =>
      have step : (q :: r :: rest).count p = (r :: rest).count p + if q == p then 1 else 0 := List.count_cons
      rw [mem_repeated_cons_cons, ih later, step]
      by_cases here : p = q
      · subst here
        -- nothing stands between two equal pairs of a list in order
        have again : 0 < (r :: rest).count p → r = p := fun present => by
          rcases List.mem_cons.1 (List.count_pos_iff.1 present) with same | behind
          · exact same.symm
          · have up := first r List.mem_cons_self
            have down := (List.pairwise_cons.1 later).1 p behind
            exact Pair.ext (by omega) (by omega)
        rw [beq_self_eq_true, if_pos rfl, and_iff_left rfl]
        constructor
        · rintro (same | many)
          · have present : 0 < (r :: rest).count p := List.count_pos_iff.2 (same ▸ List.mem_cons_self)
            omega
          · omega
        · exact fun many => Or.inl (again (by omega))
      · rw [beq_eq_false_iff_ne.2 (Ne.symm here), if_neg Bool.false_ne_true, Nat.add_zero]
        exact or_iff_right fun both => here both.2

theorem mem_repeated_sort {pairs : List Pair} {p : Pair} : p ∈ repeated (Pair.sort pairs) ↔ 1 < pairs.count p := by
  rw [mem_repeated (Pair.pairwise_sort pairs), (Pair.sort_perm pairs).count_eq]

theorem Pair.normalized_of_lt {p : Pair} (ordered : p.a < p.b) : p.normalized = p :=
  if_pos (Nat.le_of_lt ordered)

theorem Pair.map_normalized {pairs : List Pair} (ordered : ∀ p ∈ pairs, p.a < p.b) : pairs.map normalized = pairs :=
  (List.map_congr_left fun p member => normalized_of_lt (ordered p member)).trans (List.map_id _)

theorem Pair.normalized_le (p : Pair) : p.normalized.a ≤ p.normalized.b := by
  unfold normalized
  split
  · assumption
  · dsimp only
    omega

section Lists

variable {objects : Nat} {reported expected : List Pair} {p : Pair}

theorem mem_missing :
    p ∈ (comparePairs objects reported expected).missing ↔
      p ∈ expected.map Pair.normalized ∧ p ∉ reported.map Pair.normalized := by
  simp only [comparePairs, List.mem_filter, mem_distinct, (Pair.sort_perm _).mem_iff, Std.HashSet.contains_ofList,
    Bool.not_eq_true', List.contains_eq_mem, decide_eq_false_iff_not]

theorem mem_unexpected :
    p ∈ (comparePairs objects reported expected).unexpected ↔
      p ∈ reported.map Pair.normalized ∧ (p.a = p.b ∨ p ∉ expected.map Pair.normalized) := by
  simp only [comparePairs, List.mem_filter, mem_distinct, (Pair.sort_perm _).mem_iff, Std.HashSet.contains_ofList,
    Bool.or_eq_true, decide_eq_true_eq, Bool.not_eq_true', List.contains_eq_mem, decide_eq_false_iff_not]

theorem mem_duplicates :
    p ∈ (comparePairs objects reported expected).duplicates ↔ 1 < (reported.map Pair.normalized).count p := by
  simp only [comparePairs, mem_distinct, mem_repeated_sort]

theorem misordered_eq_zero :
    (comparePairs objects reported expected).misordered = 0 ↔ ∀ p ∈ reported, p.a < p.b := by
  simp only [comparePairs, List.length_eq_zero_iff, List.filter_eq_nil_iff, decide_eq_true_eq, Nat.not_le]

theorem comparePairs_isValid_iff :
    (comparePairs objects reported expected).isValid = true ↔
      (∀ p ∈ expected.map Pair.normalized, p ∈ reported.map Pair.normalized) ∧
        (∀ p ∈ reported.map Pair.normalized, p.a ≠ p.b ∧ p ∈ expected.map Pair.normalized) ∧
        (reported.map Pair.normalized).Nodup ∧ ∀ p ∈ reported, p.a < p.b := by
  simp only [Report.isValid, Bool.and_eq_true, List.isEmpty_iff, List.eq_nil_iff_forall_not_mem, mem_missing,
    mem_unexpected, mem_duplicates, decide_eq_true_eq, misordered_eq_zero, List.nodup_iff_count_le_one, and_assoc]
  refine and_congr ?_ (and_congr ?_ (and_congr_left' ?_))
  · exact forall_congr' fun p => by rw [not_and_not_right]
  · exact forall_congr' fun p => by rw [not_and, not_or, not_not]
  · exact forall_congr' fun p => Nat.not_lt

/-- Of pairs in order that are all different, just the lists with each of
them once compare without complaint. -/
theorem comparePairs_isValid_iff_perm (ordered : ∀ p ∈ expected, p.a < p.b) (once : expected.Nodup) :
    (comparePairs objects reported expected).isValid = true ↔ reported.Perm expected := by
  rw [comparePairs_isValid_iff, Pair.map_normalized ordered]
  constructor
  · rintro ⟨complete, sound, different, upward⟩
    rw [Pair.map_normalized upward] at complete sound different
    exact (List.perm_ext_iff_of_nodup different once).2 fun p => ⟨fun member => (sound p member).2, complete p⟩
  · intro perm
    have upward : ∀ p ∈ reported, p.a < p.b := fun p member => ordered p (perm.mem_iff.1 member)
    rw [Pair.map_normalized upward]
    exact ⟨fun p => perm.mem_iff.2, fun p member => ⟨Nat.ne_of_lt (upward p member), perm.mem_iff.1 member⟩,
      perm.nodup_iff.2 once, upward⟩

end Lists

/-- A report finds no fault exactly if what was reported is, in some order,
the list of all overlapping pairs, each once and with the smaller number
first. That list itself is complete and in order. -/
theorem audit_isValid_iff_perm (spheres : List (Sphere Float32)) (reported : List Pair) :
    ((audit spheres reported).isValid = true ↔ reported.Perm (overlappingPairs spheres)) ∧
      ((overlappingPairs spheres).Pairwise fun p q => p.a < q.a ∨ p.a = q.a ∧ p.b < q.b) ∧
      ∀ i j, ⟨i, j⟩ ∈ overlappingPairs spheres ↔
        i < j ∧ ∃ s t, spheres[i]? = some s ∧ spheres[j]? = some t ∧ s.overlaps t = true := by
  have ordered := pairwise_overlappingPairs spheres
  have member (i j : Nat) : ⟨i, j⟩ ∈ overlappingPairs spheres ↔
      i < j ∧ ∃ s t, spheres[i]? = some s ∧ spheres[j]? = some t ∧ s.overlaps t = true := by
    rw [mem_overlappingPairs]
    constructor
    · rintro ⟨s, t, atI, atJ, before, overlap⟩
      exact ⟨before, s, t, atI, atJ, overlap⟩
    · rintro ⟨before, s, t, atI, atJ, overlap⟩
      exact ⟨s, t, atI, atJ, before, overlap⟩
  have once : (overlappingPairs spheres).Nodup := ordered.imp fun {p q} before same => by
    subst same
    omega
  exact ⟨comparePairs_isValid_iff_perm (fun p listed => ((member p.a p.b).1 listed).1) once, ordered, member⟩

section Sorted

variable {pairs : List Pair}

theorem repeated_sublist (pairs : List Pair) : (repeated pairs).Sublist pairs := by
  induction pairs with
  | nil => exact .slnil
  | cons p pairs ih =>
    cases pairs with
    | nil => exact List.nil_sublist _
    | cons q rest =>
      rw [repeated_cons_cons]
      split
      · exact ih.cons_cons p
      · exact ih.cons p

/-- Of a list in order, each element once is strictly in order. -/
theorem pairwise_distinct (sorted : pairs.Pairwise fun p q => p.a < q.a ∨ p.a = q.a ∧ p.b ≤ q.b) :
    (distinct pairs).Pairwise Pair.Before := by
  induction pairs with
  | nil => exact .nil
  | cons p pairs ih =>
    obtain ⟨first, later⟩ := List.pairwise_cons.1 sorted
    cases pairs with
    | nil => exact List.pairwise_singleton _ _
    | cons q rest =>
      rw [distinct_cons_cons]
      by_cases same : q = p
      · rw [if_pos same]
        exact ih later
      · rw [if_neg same]
        refine List.pairwise_cons.2 ⟨fun r member => ?_, ih later⟩
        -- what follows stands behind `q`, and `q` is already past `p`
        have past := Pair.Before.of_ne (first q List.mem_cons_self) (Ne.symm same)
        rcases List.mem_cons.1 (mem_distinct.1 member) with rfl | behind
        · exact past
        · have atMost := (List.pairwise_cons.1 later).1 r behind
          unfold Pair.Before at past ⊢
          omega

end Sorted

/-- Reported pairs with the smaller number first, each as often as it was
reported. -/
def seenPairs (reported : List Pair) : Multiset Pair :=
  ↑(reported.map Pair.normalized)

/-- Expected pairs with the smaller number first, each once. -/
def wantedPairs (expected : List Pair) : Finset Pair :=
  (expected.map Pair.normalized).toFinset

/-- What a report says of the pairs that were seen and of those that were
wanted. -/
structure Report.Tells (r : Report) (seen : Multiset Pair) (wanted : Finset Pair) : Prop where
  expected : r.expected = wanted.card
  missing : r.missing.toFinset = wanted \ seen.toFinset
  unexpected : r.unexpected.toFinset = seen.toFinset \ wanted ∪ seen.toFinset.filter fun p => p.a = p.b
  duplicates : r.duplicates.toFinset = seen.toFinset.filter fun p => 1 < seen.count p
  ordered : r.missing.Pairwise Pair.Before ∧ r.unexpected.Pairwise Pair.Before ∧ r.duplicates.Pairwise Pair.Before

section Lists

variable (objects : Nat) (reported expected : List Pair)

theorem card_wantedPairs : (distinct (Pair.sort (expected.map Pair.normalized))).length = (wantedPairs expected).card := by
  have once := (pairwise_distinct (Pair.pairwise_sort (expected.map Pair.normalized))).imp Pair.Before.ne
  rw [← List.toFinset_card_of_nodup once]
  refine congrArg Finset.card (Finset.ext fun p => ?_)
  rw [List.mem_toFinset, mem_distinct, (Pair.sort_perm _).mem_iff, wantedPairs, List.mem_toFinset]

theorem comparePairs_tells :
    (comparePairs objects reported expected).Tells (seenPairs reported) (wantedPairs expected) where
  expected := card_wantedPairs expected
  missing := by
    ext p
    simp only [List.mem_toFinset, mem_missing, Finset.mem_sdiff, wantedPairs, seenPairs, Multiset.mem_toFinset,
      Multiset.mem_coe]
  unexpected := by
    ext p
    simp only [List.mem_toFinset, mem_unexpected, Finset.mem_union, Finset.mem_sdiff, Finset.mem_filter, wantedPairs,
      seenPairs, Multiset.mem_toFinset, Multiset.mem_coe]
    rw [and_or_left, or_comm]
  duplicates := by
    ext p
    simp only [List.mem_toFinset, mem_duplicates, Finset.mem_filter, seenPairs, Multiset.mem_toFinset, Multiset.mem_coe,
      Multiset.coe_count]
    exact (and_iff_right_of_imp fun many => List.count_pos_iff.1 (Nat.lt_of_succ_lt many)).symm
  ordered := by
    have seen := Pair.pairwise_sort (reported.map Pair.normalized)
    refine ⟨?_, ?_, pairwise_distinct (seen.sublist (repeated_sublist _))⟩
    · exact (pairwise_distinct (Pair.pairwise_sort _)).filter _
    · exact (pairwise_distinct seen).filter _

variable {objects reported expected}

theorem comparePairs_perm {reported' expected' : List Pair} (reports : reported'.Perm reported)
    (expectations : expected'.Perm expected) :
    comparePairs objects reported' expected' = comparePairs objects reported expected := by
  simp only [comparePairs, Pair.sort_eq_of_perm (reports.map _), Pair.sort_eq_of_perm (expectations.map _),
    reports.length_eq, (reports.filter _).length_eq]

theorem mem_wantedPairs {p : Pair} : p ∈ wantedPairs expected ↔ p ∈ expected.map Pair.normalized :=
  List.mem_toFinset

theorem isValid_iff_perm_wantedPairs :
    (comparePairs objects reported expected).isValid = true ↔
      reported.Perm (wantedPairs expected).toList ∧ ∀ p ∈ wantedPairs expected, p.a ≠ p.b := by
  rw [comparePairs_isValid_iff]
  simp only [← @mem_wantedPairs expected]
  constructor
  · rintro ⟨complete, sound, different, upward⟩
    rw [Pair.map_normalized upward] at complete sound different
    refine ⟨(List.perm_ext_iff_of_nodup different (Finset.nodup_toList _)).2 fun p => ?_, fun p member =>
      (sound p (complete p member)).1⟩
    rw [Finset.mem_toList]
    exact ⟨fun listed => (sound p listed).2, complete p⟩
  · rintro ⟨perm, proper⟩
    have wanted (p : Pair) : p ∈ reported ↔ p ∈ wantedPairs expected := perm.mem_iff.trans Finset.mem_toList
    have upward (p : Pair) (listed : p ∈ reported) : p.a < p.b := by
      have member := (wanted p).1 listed
      obtain ⟨q, _, rfl⟩ := List.mem_map.1 (mem_wantedPairs.1 member)
      exact Nat.lt_of_le_of_ne q.normalized_le (proper _ member)
    rw [Pair.map_normalized upward]
    exact ⟨fun p => (wanted p).2, fun p listed => ⟨Nat.ne_of_lt (upward p listed), (wanted p).1 listed⟩,
      perm.nodup_iff.2 (Finset.nodup_toList _), upward⟩

end Lists

/-- A report lists just the wanted pairs that were not seen, the seen ones
that were not wanted along with the seen pairs of equal numbers, and those
seen more than once, each list strictly in order. It counts wanted pairs
once, and reported ones as they come, those with numbers out of order apart.
The order of the two lists has no part in it. It finds no fault exactly if
the wanted pairs were reported, in some order, and none of them has equal
numbers. -/
theorem comparePairs_exact (objects : Nat) (reported expected : List Pair) :
    (comparePairs objects reported expected).Tells (seenPairs reported) (wantedPairs expected) ∧
      (comparePairs objects reported expected).reported = reported.length ∧
      (comparePairs objects reported expected).misordered = reported.countP (fun p => p.b ≤ p.a) ∧
      (∀ reported' expected', reported'.Perm reported → expected'.Perm expected →
        comparePairs objects reported' expected' = comparePairs objects reported expected) ∧
      ((comparePairs objects reported expected).isValid = true ↔
        reported.Perm (wantedPairs expected).toList ∧ ∀ p ∈ wantedPairs expected, p.a ≠ p.b) := by
  refine ⟨comparePairs_tells objects reported expected, rfl, ?_, fun _ _ => comparePairs_perm,
    isValid_iff_perm_wantedPairs⟩
  exact List.countP_eq_length_filter.symm

/-- Pairs that were reported twice in different orders, with equal numbers,
or without being expected. -/
theorem comparePairs_exact_mixed :
    [⟨3, 0⟩, ⟨2, 2⟩, ⟨1, 0⟩, ⟨0, 1⟩].Perm [⟨0, 1⟩, ⟨1, 0⟩, ⟨2, 2⟩, (⟨3, 0⟩ : Pair)] ∧
      ∃ r, comparePairs 4 [⟨0, 1⟩, ⟨1, 0⟩, ⟨2, 2⟩, ⟨3, 0⟩] [⟨1, 0⟩, ⟨1, 2⟩, ⟨2, 2⟩, ⟨2, 1⟩] = r ∧
        comparePairs 4 [⟨3, 0⟩, ⟨2, 2⟩, ⟨1, 0⟩, ⟨0, 1⟩] [⟨1, 0⟩, ⟨1, 2⟩, ⟨2, 2⟩, ⟨2, 1⟩] = r ∧
        r.missing.toFinset = {⟨1, 2⟩} ∧ r.unexpected.toFinset = {⟨0, 3⟩, ⟨2, 2⟩} ∧ r.duplicates.toFinset = {⟨0, 1⟩} ∧
        r.misordered = 3 ∧ r.expected = 3 ∧ r.reported = 4 := by
  obtain ⟨tells, reported, misordered, order, _⟩ :=
    comparePairs_exact 4 [⟨0, 1⟩, ⟨1, 0⟩, ⟨2, 2⟩, ⟨3, 0⟩] [⟨1, 0⟩, ⟨1, 2⟩, ⟨2, 2⟩, ⟨2, 1⟩]
  have reversed : [⟨3, 0⟩, ⟨2, 2⟩, ⟨1, 0⟩, ⟨0, 1⟩].Perm [⟨0, 1⟩, ⟨1, 0⟩, ⟨2, 2⟩, (⟨3, 0⟩ : Pair)] := by decide
  exact ⟨reversed, _, rfl, order _ _ reversed (.refl _), tells.missing.trans (by decide),
    tells.unexpected.trans (by decide), tells.duplicates.trans (by decide), misordered, tells.expected, reported⟩

end ContactGrid
