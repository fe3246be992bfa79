import ContactGrid.Bulk.Runs
import ContactGrid.Proofs.PrefixSums
import Mathlib.Data.List.Chain

namespace ContactGrid

/-- The list that consists of some runs, each a key with its length. -/
def expand (runs : List (Nat × Nat)) : List Nat :=
  runs.flatMap fun r => List.replicate r.2 r.1

/-- No run is empty, and the keys of neighboring runs differ. -/
structure Runs (runs : List (Nat × Nat)) : Prop where
  positive : ∀ r ∈ runs, 0 < r.2
  distinct : runs.IsChain fun r s => r.1 ≠ s.1

theorem Runs.tail {r : Nat × Nat} {runs : List (Nat × Nat)} (valid : Runs (r :: runs)) : Runs runs where
  positive s member := valid.positive s (List.mem_cons_of_mem _ member)
  distinct := valid.distinct.tail

theorem length_expand (runs : List (Nat × Nat)) : (expand runs).length = (runs.map Prod.snd).sum := by
  simp [expand, List.length_flatMap]

theorem expand_cons (r : Nat × Nat) (runs : List (Nat × Nat)) :
    expand (r :: runs) = List.replicate r.2 r.1 ++ expand runs :=
  List.flatMap_cons

theorem Runs.length_le {runs : List (Nat × Nat)} (valid : Runs runs) : runs.length ≤ (expand runs).length := by
  induction runs with
  | nil => exact Nat.le_refl 0
  | cons r runs ih =>
    have rest := ih valid.tail
    have first := valid.positive r List.mem_cons_self
    rw [expand_cons, List.length_append, List.length_replicate, List.length_cons]
    omega

theorem Runs.head_ne {r : Nat × Nat} {runs : List (Nat × Nat)} (valid : Runs (r :: runs)) :
    (expand runs)[0]? ≠ some r.1 := by
  cases runs with
  | nil => simp [expand]
  | cons s runs =>
    have first := valid.tail.positive s List.mem_cons_self
    have other : r.1 ≠ s.1 := (List.isChain_cons_cons.1 valid.distinct).1
    rw [expand_cons, List.getElem?_append_left (by simpa using first), List.getElem?_replicate, if_pos first]
    simpa using other.symm

theorem runHeads_append {length key : Nat} {rest : List Nat} (positive : 0 < length) (other : rest[0]? ≠ some key) :
    runHeads (List.replicate length key ++ rest).toArray = 0 :: (runHeads rest.toArray).map (length + ·) := by
  obtain ⟨length, rfl⟩ : ∃ k, length = k + 1 := ⟨length - 1, by omega⟩
  simp only [runHeads, List.size_toArray, List.length_append, List.length_replicate, List.getElem?_toArray]
  rw [List.range_add, List.filter_append, List.range_succ_eq_map, List.filter_cons_of_pos (by simp), List.filter_map,
    List.filter_map, List.cons_append]
  congr 1
  have first (j : Nat) (near : j < length + 1) : (List.replicate (length + 1) key ++ rest)[j]? = some key := by
    rw [List.getElem?_append_left (by rwa [List.length_replicate]), List.getElem?_replicate, if_pos near]
  have inside : (List.range length).filter ((fun i => decide (i = 0) ||
      (List.replicate (length + 1) key ++ rest)[i]? != (List.replicate (length + 1) key ++ rest)[i - 1]?) ∘ Nat.succ)
      = [] := by
    rw [List.filter_eq_nil_iff]
    intro i member
    have small := List.mem_range.1 member
    simp [first i (by omega), first (i + 1) (by omega)]
  rw [inside, List.map_nil, List.nil_append]
  refine congrArg (List.map _) (List.filter_congr fun i member => ?_)
  have small := List.mem_range.1 member
  have front (j : Nat) : (List.replicate (length + 1) key ++ rest)[length + 1 + j]? = rest[j]? := by
    rw [List.getElem?_append_right (by simp), List.length_replicate, Nat.add_sub_cancel_left]
  have border := first length (Nat.lt_succ_self length)
  cases i with
  | zero => simpa [border, front 0] using other
  | succ i =>
    have next := front (i + 1)
    rw [← Nat.add_assoc] at next
    simp [next, front i, ← Nat.add_assoc]

theorem runHeads_expand {runs : List (Nat × Nat)} (valid : Runs runs) :
    runHeads (expand runs).toArray = sumsBefore 0 (runs.map Prod.snd) := by
  induction runs with
  | nil => rfl
  | cons r runs ih =>
    rw [expand_cons, runHeads_append (valid.positive r List.mem_cons_self) valid.head_ne, ih valid.tail, List.map_cons,
      sumsBefore, Nat.zero_add]
    exact congrArg (0 :: ·) (sumsBefore_add r.2 0 _).symm

theorem getElem?_expand {runs : List (Nat × Nat)} (valid : Runs runs) {i : Nat} {r : Nat × Nat}
    (atRun : runs[i]? = some r) : (expand runs)[((runs.map Prod.snd).take i).sum]? = some r.1 := by
  induction runs generalizing i with
  | nil => cases atRun
  | cons s runs ih =>
    rw [expand_cons]
    cases i with
    | zero =>
      cases atRun
      have first := valid.positive r List.mem_cons_self
      simp [first]
    | succ i =>
      rw [List.map_cons, List.take_succ_cons, List.sum_cons, List.getElem?_append_right (by simp),
        List.length_replicate, Nat.add_sub_cancel_left]
      exact ih valid.tail atRun

section Fields

variable {runs : List (Nat × Nat)}

theorem getElem?_runStarts {i : Nat} {r : Nat × Nat} (atRun : runs[i]? = some r) :
    (sumsBefore 0 (runs.map Prod.snd))[i]? = some ((runs.map Prod.snd).take i).sum := by
  have within := (List.getElem?_eq_some_iff.1 atRun).1
  rw [getElem?_sumsBefore (by simpa using within), Nat.zero_add]

theorem getD_runStarts {i : Nat} (within : i < runs.length) :
    (sumsBefore 0 (runs.map Prod.snd)).toArray.getD (i + 1) (expand runs).length =
      ((runs.map Prod.snd).take (i + 1)).sum := by
  rw [Array.getD_eq_getD_getElem?, List.getElem?_toArray]
  by_cases last : i + 1 < (runs.map Prod.snd).length
  · rw [getElem?_sumsBefore last, Nat.zero_add, Option.getD_some]
  · rw [List.length_map] at last
    rw [List.getElem?_eq_none (by rw [length_sumsBefore, List.length_map]; omega), Option.getD_none, length_expand,
      List.take_of_length_le (by rw [List.length_map]; omega)]

theorem fetch_runKey (valid : Runs runs) {i key : Nat} (atKey : (runs.map Prod.fst)[i]? = some key) :
    (do Fault.fetch (expand runs).toArray (← Fault.fetch (sumsBefore 0 (runs.map Prod.snd)).toArray i)) = .ok key := by
  rw [List.getElem?_map] at atKey
  obtain ⟨r, atRun, rfl⟩ := Option.map_eq_some_iff.1 atKey
  rw [Fault.fetch_eq_ok (by simpa using getElem?_runStarts atRun)]
  exact Fault.fetch_eq_ok (by simpa using getElem?_expand valid atRun)

/-- A run is as long as the distance from its start to the next one, or to
the end. -/
theorem sub_runStarts {i length : Nat} (atLength : (runs.map Prod.snd)[i]? = some length) :
    (do
      Fault.sub ((sumsBefore 0 (runs.map Prod.snd)).toArray.getD (i + 1) (expand runs).length)
        (← Fault.fetch (sumsBefore 0 (runs.map Prod.snd)).toArray i)) = .ok length := by
  have grown : ((runs.map Prod.snd).take (i + 1)).sum = ((runs.map Prod.snd).take i).sum + length := by
    rw [List.take_add_one, atLength]
    simp
  rw [List.getElem?_map] at atLength
  obtain ⟨r, atRun, rfl⟩ := Option.map_eq_some_iff.1 atLength
  have within := (List.getElem?_eq_some_iff.1 atRun).1
  rw [Fault.fetch_eq_ok (by simpa using getElem?_runStarts atRun), getD_runStarts within, grown, Fault.ok_bind, Fault.sub,
    if_pos (Nat.le_add_right _ _), Nat.add_sub_cancel_left]

theorem numbered_runKeys (valid : Runs runs) {unique : List Nat} (room : runs.length ≤ unique.length) :
    Metered.numbered (fun r _ => do
      Fault.fetch (expand runs).toArray (← Fault.fetch (sumsBefore 0 (runs.map Prod.snd)).toArray r))
      (unique.take runs.length) = .ok (runs.map Prod.fst) :=
  Metered.numbered_eq_ok (by simp; omega) fun _ _ _ _ => fetch_runKey valid

theorem runStarts_mod (few : (expand runs).length < limit32) :
    (sumsBefore 0 (runs.map Prod.snd)).map (· % limit32) = sumsBefore 0 (runs.map Prod.snd) := by
  rw [length_expand] at few
  refine (List.map_congr_left fun start member => ?_).trans (List.map_id _)
  have bound := le_of_mem_sumsBefore member
  exact Nat.mod_eq_of_lt (by omega)

theorem numbered_runLengths (few : (expand runs).length < limit32) {counts : List Nat}
    (room : runs.length ≤ counts.length) :
    Metered.numbered (fun r _ => (· % limit32) <$> do
      Fault.sub ((sumsBefore 0 (runs.map Prod.snd)).toArray.getD (r + 1) (expand runs).length)
        (← Fault.fetch (sumsBefore 0 (runs.map Prod.snd)).toArray r))
      (counts.take runs.length) = .ok (runs.map Prod.snd) := by
  refine Metered.numbered_eq_ok (by simp; omega) fun i _ length _ atLength => ?_
  rw [length_expand] at few
  have bound := List.le_sum_of_mem (List.mem_of_getElem? atLength)
  rw [sub_runStarts atLength]
  exact congrArg Except.ok (Nat.mod_eq_of_lt (Nat.lt_of_le_of_lt bound few))

end Fields

/-- Keys and lengths of the runs come out in front of what the outputs held
before, which stays. -/
theorem leads_encodeRuns {oldHeads unique counts : List Nat} {runs : List (Nat × Nat)} {m : Meter}
    {done : RunEncoding → Meter → Prop} {failed : Failure → Meter → Prop} (valid : Runs runs)
    (few : (expand runs).length < limit32) (roomKeys : (expand runs).length ≤ unique.length)
    (roomCounts : (expand runs).length ≤ counts.length) :
    Leads (encodeRuns oldHeads (expand runs) unique counts) m done failed ↔
      done
        { heads := sumsBefore 0 (runs.map Prod.snd)
          unique := runs.map Prod.fst ++ unique.drop runs.length
          counts := runs.map Prod.snd ++ counts.drop runs.length
          runs := runs.length }
        ((m.launchedOver .light runs.length).launchedOver .light runs.length).waited := by
  have rooms :
      (decide ((expand runs).length ≤ unique.length) && decide ((expand runs).length ≤ counts.length)) = true := by
    simp [roomKeys, roomCounts]
  have fewer := valid.length_le
  have keys := numbered_runKeys valid (Nat.le_trans fewer roomKeys)
  have lengths := numbered_runLengths few (Nat.le_trans fewer roomCounts)
  simp only [encodeRuns, Fault.check_eq_ok rooms, runHeads_expand valid, runStarts_mod few, length_sumsBefore,
    List.length_map, keys, lengths]
  cases runs with
  | nil => exact Iff.rfl
  | cons r runs =>
    have some : (expand (r :: runs)).length ≠ 0 := by
      rw [List.length_cons] at fewer
      omega
    rw [if_pos some, if_pos (by simp)]
    exact Iff.rfl

/-- Whether runs are cut right does not depend on the length of the first
one. -/
theorem Runs.resized {key length other : Nat} {runs : List (Nat × Nat)} (valid : Runs ((key, length) :: runs))
    (positive : 0 < other) : Runs ((key, other) :: runs) where
  positive r member := by
    rcases List.mem_cons.1 member with rfl | later
    · exact positive
    · exact valid.positive r (List.mem_cons_of_mem _ later)
  distinct := by
    cases runs with
    | nil => exact .singleton _
    | cons s runs =>
      obtain ⟨different, rest⟩ := List.isChain_cons_cons.1 valid.distinct
      exact .cons_cons different rest

theorem Runs.cons {key : Nat} {r : Nat × Nat} {runs : List (Nat × Nat)} (valid : Runs (r :: runs))
    (different : key ≠ r.1) : Runs ((key, 1) :: r :: runs) where
  positive s member := by
    rcases List.mem_cons.1 member with rfl | later
    · exact Nat.one_pos
    · exact valid.positive s later
  distinct := .cons_cons different valid.distinct

/-- Every list consists of runs. -/
theorem exists_runs (keys : List Nat) : ∃ runs, Runs runs ∧ expand runs = keys := by
  induction keys with
  | nil => exact ⟨[], ⟨by simp, .nil⟩, rfl⟩
  | cons key keys ih =>
    obtain ⟨runs, valid, rfl⟩ := ih
    cases runs with
    | nil => exact ⟨[(key, 1)], ⟨by simp, .singleton _⟩, rfl⟩
    | cons r runs =>
      by_cases same : key = r.1
      · subst same
        refine ⟨(r.1, r.2 + 1) :: runs, valid.resized (Nat.succ_pos _), ?_⟩
        rw [expand_cons, expand_cons, List.replicate_succ, List.cons_append]
      · exact ⟨(key, 1) :: r :: runs, valid.cons same, expand_cons _ _⟩

/-- Equal keys at the front of a list belong to its first run, since the
next run has another key. -/
theorem Runs.front_le {r part : Nat × Nat} {runs : List (Nat × Nat)} {rest : List Nat} (valid : Runs (r :: runs))
    (same : List.replicate part.2 part.1 ++ rest = List.replicate r.2 r.1 ++ expand runs) : part.2 ≤ r.2 := by
  by_contra more
  have longer : r.2 < part.2 := Nat.lt_of_not_le more
  have positive : 0 < r.2 := valid.positive r List.mem_cons_self
  have start := congrArg (·[0]?) same
  have border := congrArg (·[r.2]?) same
  simp only [List.getElem?_append_left, List.length_replicate, List.getElem?_replicate, positive, longer,
    Nat.lt_trans positive longer, if_true, Option.some.injEq] at start border
  rw [start, List.getElem?_append_right (by simp), List.length_replicate, Nat.sub_self] at border
  exact valid.head_ne border.symm

/-- No other way to write a list as repeated keys takes fewer of them than
its runs. -/
theorem Runs.length_le_of_expand_eq {runs parts : List (Nat × Nat)} (valid : Runs runs)
    (same : expand parts = expand runs) : runs.length ≤ parts.length := by
  induction parts generalizing runs with
  | nil =>
    have none := valid.length_le
    rwa [← same] at none
  | cons part parts ih =>
    cases runs with
    | nil => exact Nat.zero_le _
    | cons r runs =>
      rw [expand_cons, expand_cons] at same
      rw [List.length_cons, List.length_cons]
      have front := valid.front_le same
      have rest := congrArg (List.drop part.2) same
      rw [List.drop_left' List.length_replicate, List.drop_append_of_le_length (by simpa using front),
        List.drop_replicate] at rest
      rcases Nat.lt_or_eq_of_le front with less | equal
      · -- what is left of the first run is a run
        have fewer := ih (valid.resized (Nat.sub_pos_of_lt less)) (rest.trans (expand_cons (r.1, r.2 - part.2) runs).symm)
        rw [List.length_cons] at fewer
        omega
      · rw [equal, Nat.sub_self, List.replicate_zero, List.nil_append] at rest
        exact Nat.succ_le_succ (ih valid.tail rest)

/-- The runs that an encoding shows, each by its key and its length. -/
def RunEncoding.written (e : RunEncoding) : List (Nat × Nat) :=
  (e.unique.zip e.counts).take e.runs

theorem written_runs (heads : List Nat) (runs : List (Nat × Nat)) (unique counts : List Nat) :
    RunEncoding.written ⟨heads, runs.map Prod.fst ++ unique, runs.map Prod.snd ++ counts, runs.length⟩ = runs := by
  rw [RunEncoding.written, List.zip_append (by simp), ← List.unzip_fst, ← List.unzip_snd, List.zip_unzip, List.take_left]

theorem getElem?_append_drop {α : Type} {front xs : List α} {i : Nat} (behind : front.length ≤ i) :
    (front ++ xs.drop front.length)[i]? = xs[i]? := by
  rw [List.getElem?_append_right behind, List.getElem?_drop, Nat.add_sub_cancel' behind]

theorem run_encodeRuns {oldHeads unique counts : List Nat} {runs : List (Nat × Nat)} {m : Meter} (valid : Runs runs)
    (few : (expand runs).length < limit32) (roomKeys : (expand runs).length ≤ unique.length)
    (roomCounts : (expand runs).length ≤ counts.length) :
    (encodeRuns oldHeads (expand runs) unique counts).run.run m =
      (.ok ⟨sumsBefore 0 (runs.map Prod.snd), runs.map Prod.fst ++ unique.drop runs.length,
        runs.map Prod.snd ++ counts.drop runs.length, runs.length⟩,
        ((m.launchedOver .light runs.length).launchedOver .light runs.length).waited) :=
  Leads.run_eq_ok ((leads_encodeRuns valid few roomKeys roomCounts).2 ⟨rfl, rfl⟩)

/-- The keys come back when the runs shown by an encoding are written out.
None of the runs is empty, neighbors have different keys, and no other way
to write the keys as repeated ones takes fewer. The outputs keep their
lengths and all they held behind the last run, and heads left by an earlier
encoding have no part in it. -/
theorem encodeRuns_exact {keys unique counts : List Nat} (few : keys.length < limit32)
    (roomKeys : keys.length ≤ unique.length) (roomCounts : keys.length ≤ counts.length) (oldHeads : List Nat)
    (m : Meter) :
    ∃ e m', (encodeRuns oldHeads keys unique counts).run.run m = (.ok e, m') ∧
      e.unique.length = unique.length ∧ e.counts.length = counts.length ∧
      e.written.length = e.runs ∧ expand e.written = keys ∧ Runs e.written ∧
      (∀ parts, expand parts = keys → e.runs ≤ parts.length) ∧
      ∀ i, e.runs ≤ i → e.unique[i]? = unique[i]? ∧ e.counts[i]? = counts[i]? := by
  obtain ⟨runs, valid, rfl⟩ := exists_runs keys
  have fewer := valid.length_le
  have shown := written_runs (sumsBefore 0 (runs.map Prod.snd)) runs (unique.drop runs.length) (counts.drop runs.length)
  refine ⟨_, _, run_encodeRuns valid few roomKeys roomCounts, ?_, ?_, congrArg List.length shown,
    congrArg expand shown, by rwa [shown], fun parts => valid.length_le_of_expand_eq, fun i behind => ⟨?_, ?_⟩⟩
  · rw [List.length_append, List.length_map, List.length_drop]
    omega
  · rw [List.length_append, List.length_map, List.length_drop]
    omega
  · rw [← List.length_map Prod.fst] at behind ⊢
    exact getElem?_append_drop behind
  · rw [← List.length_map Prod.snd] at behind ⊢
    exact getElem?_append_drop behind

/-- Unsorted keys in outputs that are longer and not blank, after a longer
list was encoded. -/
theorem encodeRuns_unsorted :
    [7, 7, 3, 7].length < limit32 ∧ [7, 7, 3, 7].length ≤ [9, 9, 9, 9, 9].length ∧
      [7, 7, 3, 7].length ≤ [8, 8, 8, 8].length ∧
      ∃ e m', (encodeRuns [0, 2, 4, 6, 8] [7, 7, 3, 7] [9, 9, 9, 9, 9] [8, 8, 8, 8]).run.run {} = (.ok e, m') ∧
        e.unique = [7, 3, 7, 9, 9] ∧ e.counts = [2, 1, 1, 8] ∧ expand e.written = [7, 7, 3, 7] ∧
        ∀ parts, expand parts = [7, 7, 3, 7] → 3 ≤ parts.length := by
  have few : [7, 7, 3, 7].length < limit32 := by decide
  have roomKeys : [7, 7, 3, 7].length ≤ [9, 9, 9, 9, 9].length := by decide
  have roomCounts : [7, 7, 3, 7].length ≤ [8, 8, 8, 8].length := by decide
  obtain ⟨e, m', run, _, _, _, whole, _, least, _⟩ := encodeRuns_exact few roomKeys roomCounts [0, 2, 4, 6, 8] {}
  obtain rfl : ⟨[0, 2, 3], [7, 3, 7, 9, 9], [2, 1, 1, 8], 3⟩ = e := Except.ok.inj (congrArg Prod.fst run)
  exact ⟨few, roomKeys, roomCounts, _, m', run, rfl, rfl, whole, least⟩

end ContactGrid
