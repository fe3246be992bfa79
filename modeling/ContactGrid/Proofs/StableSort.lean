import ContactGrid.Bulk.Sort
import ContactGrid.Proofs.Launch
import Mathlib.Data.Fin.Tuple.Sort

namespace ContactGrid

variable {α β : Type}

theorem key_le_of_filter {key : α → Nat} {x y : α} {xs ys : List α}
    (sorted : (y :: ys).Pairwise fun a b => key a ≤ key b)
    (same : (x :: xs).filter (key · == key x) = (y :: ys).filter (key · == key x)) : key y ≤ key x := by
  have member : x ∈ (y :: ys).filter (key · == key x) := by simp [← same]
  rcases List.mem_cons.1 (List.mem_filter.1 member).1 with rfl | later
  · exact Nat.le_refl _
  · exact (List.pairwise_cons.1 sorted).1 x later

/-- Only one list is in order of keys and has the elements of each key in a
given order. -/
theorem eq_of_sorted_of_filter {key : α → Nat} {xs ys : List α}
    (hx : xs.Pairwise fun x y => key x ≤ key y) (hy : ys.Pairwise fun x y => key x ≤ key y)
    (same : ∀ k, xs.filter (key · == k) = ys.filter (key · == k)) : xs = ys := by
  induction xs generalizing ys with
  | nil =>
    cases ys with
    | nil => rfl
    | cons y ys => simpa using same (key y)
  | cons x xs ih =>
    cases ys with
    | nil => simpa using same (key x)
    | cons y ys =>
      have equal : key x = key y :=
        Nat.le_antisymm (key_le_of_filter hx (same (key y)).symm) (key_le_of_filter hy (same (key x)))
      have heads := same (key x)
      rw [List.filter_cons_of_pos (by simp), List.filter_cons_of_pos (by simp [equal])] at heads
      obtain ⟨rfl, _⟩ := List.cons.inj heads
      rw [ih (List.pairwise_cons.1 hx).2 (List.pairwise_cons.1 hy).2]
      intro k
      have atKey := same k
      rw [List.filter_cons, List.filter_cons] at atKey
      split at atKey
      · exact (List.cons.inj atKey).2
      · exact atKey

/-- Bit by bit or by merging, a stable sort by the key comes to the same. -/
theorem radixSort_eq_mergeSort (key : α → Nat) (xs : List α) :
    radixSort key xs = xs.mergeSort fun x y => decide (key x ≤ key y) := by
  have trans (x y z : α) (first : decide (key x ≤ key y) = true) (second : decide (key y ≤ key z) = true) :
      decide (key x ≤ key z) = true :=
    decide_eq_true (Nat.le_trans (of_decide_eq_true first) (of_decide_eq_true second))
  have total (x y : α) : (decide (key x ≤ key y) || decide (key y ≤ key x)) = true := by
    simpa using Nat.le_total (key x) (key y)
  have sorted := List.pairwise_mergeSort trans total xs
  refine eq_of_sorted_of_filter (pairwise_radixSort key xs) (sorted.imp of_decide_eq_true) fun k => ?_
  -- the elements of one key are in order as they stand, and a stable sort
  -- leaves them so
  have ordered : (xs.filter (key · == k)).Pairwise fun x y => decide (key x ≤ key y) = true := by
    refine List.pairwise_of_forall_mem_list fun x hx y hy => ?_
    simp only [List.mem_filter, beq_iff_eq] at hx hy
    exact decide_eq_true (by omega)
  have stable := (List.sublist_mergeSort trans total ordered List.filter_sublist).filter (key · == k)
  simp only [List.filter_filter, Bool.and_self] at stable
  rw [filter_radixSort]
  exact stable.eq_of_length ((List.mergeSort_perm xs _).filter _).length_eq.symm

theorem radixSort_map (key : β → Nat) (f : α → β) (xs : List α) :
    radixSort key (xs.map f) = (radixSort (key ∘ f) xs).map f := by
  have bits : keyBits key (xs.map f) = keyBits (key ∘ f) xs := by
    simp only [keyBits, List.map_map]
    rfl
  unfold radixSort
  rw [bits]
  clear bits
  generalize List.range (keyBits (key ∘ f) xs) = passes
  induction passes generalizing xs with
  | nil => rfl
  | cons bit passes ih =>
    have pass : radixPass key (xs.map f) bit = (radixPass (key ∘ f) xs bit).map f := by
      simp only [radixPass, List.filter_map, List.map_append]
      rfl
    rw [List.foldl_cons, List.foldl_cons, pass, ih]

def packed (key : α → Nat) (p : α × Nat) : Nat :=
  key p.1 * limit32 + p.2

theorem packed_div {key : α → Nat} {p : α × Nat} (small : p.2 < limit32) : packed key p / limit32 = key p.1 := by
  rw [packed, Nat.mul_comm, Nat.mul_add_div (by decide), Nat.div_eq_of_lt small, Nat.add_zero]

theorem packed_mod {key : α → Nat} {p : α × Nat} (small : p.2 < limit32) : packed key p % limit32 = p.2 := by
  rw [packed, Nat.mul_comm, Nat.mul_add_mod, Nat.mod_eq_of_lt small]

theorem position_lt {xs : List α} (few : xs.length ≤ limit32) {p : α × Nat} (member : p ∈ xs.zipIdx) :
    p.2 < limit32 := by
  have bound := (List.mem_zipIdx member).2.1
  omega

theorem packed_injOn {key : α → Nat} {xs : List α} (few : xs.length ≤ limit32) {p q : α × Nat}
    (hp : p ∈ xs.zipIdx) (hq : q ∈ xs.zipIdx) (same : packed key p = packed key q) : p = q := by
  have position : p.2 = q.2 := by
    rw [← packed_mod (position_lt few hp), same, packed_mod (position_lt few hq)]
  have atP := List.mem_zipIdx_iff_getElem?.1 hp
  have atQ := List.mem_zipIdx_iff_getElem?.1 hq
  rw [position, atQ] at atP
  exact Prod.ext (Option.some.inj atP).symm position

/-- No two elements have one word, and sorting the words keeps elements of
one key in order. -/
theorem radixSort_packed {key : α → Nat} {xs : List α} (few : xs.length ≤ limit32) :
    radixSort (packed key) xs.zipIdx = radixSort (key ∘ Prod.fst) xs.zipIdx := by
  have perm : (radixSort (packed key) xs.zipIdx).Perm (radixSort (key ∘ Prod.fst) xs.zipIdx) :=
    (radixSort_perm _ _).trans (radixSort_perm _ _).symm
  have positions : xs.zipIdx.Pairwise fun p q => p.2 < q.2 := by
    rw [← List.pairwise_map (R := (· < ·)), List.zipIdx_map_snd]
    exact List.pairwise_lt_range'
  have sorted : (radixSort (key ∘ Prod.fst) xs.zipIdx).Pairwise fun p q => packed key p ≤ packed key q := by
    refine (pairwise_radixSort_of_pairwise positions (key ∘ Prod.fst)).imp_of_mem fun {p q} hp hq order => ?_
    have small := position_lt few (mem_radixSort.1 hp)
    unfold packed
    rcases order with less | ⟨equal, before⟩
    · have room : (key p.1 + 1) * limit32 ≤ key q.1 * limit32 := Nat.mul_le_mul_right _ less
      rw [Nat.succ_mul] at room
      omega
    · simp only [Function.comp_apply] at equal
      rw [equal]
      omega
  refine perm.eq_of_pairwise (fun p q hp hq le ge => ?_) (pairwise_radixSort (packed key) _) sorted
  exact packed_injOn few (mem_radixSort.1 hp) (mem_radixSort.1 hq) (Nat.le_antisymm le ge)

theorem radixSort_of_short {key : α → Nat} {xs : List α} (short : xs.length < 2) : radixSort key xs = xs := by
  have perm := radixSort_perm key xs
  match xs, short with
  | [], _ => exact List.perm_nil.1 perm
  | [x], _ => exact List.perm_singleton.1 perm

/-- The words of all elements in sorted order tell keys and positions in
sorted order. -/
theorem sortedWord {key : α → Nat} {xs : List α} (few : xs.length ≤ limit32) {i : Nat} {x : α}
    (atPlace : (radixSort key xs)[i]? = some x) :
    ∃ w, (radixSort id (xs.zipIdx.map (packed key)))[i]? = some w ∧ w / limit32 = key x ∧
      xs[w % limit32]? = some x := by
  have forget : radixSort key xs = (radixSort (key ∘ Prod.fst) xs.zipIdx).map Prod.fst := by
    rw [← radixSort_map, List.zipIdx_map_fst]
  rw [forget, List.getElem?_map] at atPlace
  obtain ⟨p, atP, rfl⟩ := Option.map_eq_some_iff.1 atPlace
  have member := mem_radixSort.1 (List.mem_of_getElem? atP)
  have small := position_lt few member
  refine ⟨packed key p, ?_, packed_div small, ?_⟩
  · rw [radixSort_map, Function.id_comp, radixSort_packed few, List.getElem?_map, atP]
    rfl
  · rw [packed_mod small]
    exact List.mem_zipIdx_iff_getElem?.1 member

section Steps

variable {key : α → Nat} {value : α → β} {xs : List α} {i : Nat}

theorem fetch_packed {word : Nat} (atWord : (xs.zipIdx.map (packed key))[i]? = some word) :
    ((Fault.fetch (xs.map key).toArray i).map fun k => k * limit32 + i) = .ok word := by
  rw [List.getElem?_map, List.getElem?_zipIdx] at atWord
  obtain ⟨p, atP, rfl⟩ := Option.map_eq_some_iff.1 atWord
  obtain ⟨x, atX, rfl⟩ := Option.map_eq_some_iff.1 atP
  rw [Fault.fetch_eq_ok (x := key x) (by simp [atX]), Nat.zero_add]
  rfl

theorem fetch_sortedKey (few : xs.length ≤ limit32) {k : Nat} (atKey : ((radixSort key xs).map key)[i]? = some k) :
    (Fault.fetch (radixSort id (xs.zipIdx.map (packed key))).toArray i).map (· / limit32) = .ok k := by
  rw [List.getElem?_map] at atKey
  obtain ⟨x, atX, rfl⟩ := Option.map_eq_some_iff.1 atKey
  obtain ⟨w, atWord, division, _⟩ := sortedWord few atX
  rw [Fault.fetch_eq_ok (x := w) (by simpa using atWord), ← division]
  rfl

theorem fetch_sortedValue (few : xs.length ≤ limit32) {v : β} (atValue : ((radixSort key xs).map value)[i]? = some v) :
    (do
      Fault.fetch (xs.map value).toArray
        ((← Fault.fetch (radixSort id (xs.zipIdx.map (packed key))).toArray i) % limit32)) = .ok v := by
  rw [List.getElem?_map] at atValue
  obtain ⟨x, atX, rfl⟩ := Option.map_eq_some_iff.1 atValue
  obtain ⟨w, atWord, _, position⟩ := sortedWord few atX
  rw [Fault.fetch_eq_ok (x := w) (by simpa using atWord)]
  exact Fault.fetch_eq_ok (by simp [position])

end Steps

/-- Keys and values come out in order of keys, and elements of one key stay
in order. The room of an earlier sort and old contents of the outputs have
no part in it. -/
theorem leads_sortByKey {memory : Memory} {room : Tape Nat} {key : α → Nat} {value : α → β} {xs : List α}
    {keysOut : List Nat} {valuesOut : List β} {m : Meter} {done : Tape Nat × List Nat × List β → Meter → Prop}
    {failed : Failure → Meter → Prop} (few : xs.length ≤ limit32)
    (sameKeys : keysOut.length = xs.length) (sameValues : valuesOut.length = xs.length)
    (sorted : ∀ tape, done (tape, (radixSort key xs).map key, (radixSort key xs).map value)
      (if xs.length < 2 then m else (((m.launched .light).launched .light).launched .light).launched .light))
    (denied : ∀ e, memory.Denies e → failed e m) :
    Leads (sortByKey memory room (xs.map key) (xs.map value) keysOut valuesOut) m done failed := by
  have lengths : (decide ((xs.map value).length = (xs.map key).length) &&
      decide (keysOut.length = (xs.map key).length) && decide (valuesOut.length = (xs.map key).length)) = true := by
    simp [sameKeys, sameValues]
  have within : ¬limit32 < xs.length := Nat.not_lt.2 few
  simp only [sortByKey, Fault.check_eq_ok lengths]
  simp only [Leads.bind_iff, Metered.leads_ofFault_ok, List.length_map]
  by_cases short : xs.length < 2
  · rw [if_pos short] at sorted ⊢
    simpa [radixSort_of_short short] using sorted room
  · have some : xs.length ≠ 0 := by omega
    rw [if_neg short] at sorted ⊢
    rw [if_neg within]
    simp only [Leads.bind_iff]
    refine Metered.leads_resize (fun tape length => ?_) denied
    rw [Metered.leads_eachElement (xs.zipIdx.map (packed key)) (by simp [length])]
    · simp only [Metered.leads_launch]
      rw [Metered.leads_eachElement ((radixSort key xs).map key) (by simp [sameKeys, length_radixSort])]
      · rw [Metered.leads_eachElement ((radixSort key xs).map value) (by simp [sameValues, length_radixSort])]
        · simpa [Meter.launchedOver, length_radixSort, some] using sorted _
        · exact fun _ _ _ _ => fetch_sortedValue few
      · exact fun _ _ _ _ => fetch_sortedKey few
    · exact fun _ _ _ _ => fetch_packed

/-- A rearrangement of the positions of some keys. The keys do not decrease
under it, and equal keys stay in order. -/
structure StableOrder (keys : List Nat) (order : Equiv.Perm (Fin keys.length)) : Prop where
  sorted : Monotone (keys.get ∘ order)
  stable : ∀ i j, i < j → keys.get (order i) = keys.get (order j) → order i < order j

theorem stableOrder_iff {keys : List Nat} {order : Equiv.Perm (Fin keys.length)} :
    StableOrder keys order ↔ order = Tuple.sort keys.get := by
  rw [Tuple.eq_sort_iff]
  exact ⟨fun order => ⟨order.sorted, order.stable⟩, fun order => ⟨order.1, order.2⟩⟩

/-- Among the positions of one key, the stable rearrangement changes
nothing. -/
theorem filter_map_sort {n : Nat} (f : Fin n → Nat) (k : Nat) :
    ((List.finRange n).map (Tuple.sort f)).filter (f · == k) = (List.finRange n).filter (f · == k) := by
  obtain ⟨_, stable⟩ := Tuple.eq_sort_iff.1 (rfl : Tuple.sort f = Tuple.sort f)
  have moved : ((List.finRange n).map (Tuple.sort f)).Pairwise fun i j => f i = f j → i < j :=
    List.pairwise_map.2 ((List.pairwise_lt_finRange n).imp fun {i j} before => stable i j before)
  refine List.Perm.eq_of_pairwise (fun i j _ _ less more => absurd more less.not_gt) ?_
    ((List.pairwise_lt_finRange n).filter _) ((Equiv.Perm.map_finRange_perm _).filter _)
  refine (moved.filter _).imp_of_mem fun {i j} hi hj before => before ?_
  rw [eq_of_beq (List.mem_filter.1 hi).2, eq_of_beq (List.mem_filter.1 hj).2]

/-- Elements sorted by their keys stand as the stable rearrangement of the
keys puts them. -/
theorem radixSort_ofFn {n : Nat} (key : α → Nat) (xs : Fin n → α) :
    radixSort key (List.ofFn xs) = List.ofFn (xs ∘ Tuple.sort (key ∘ xs)) := by
  refine eq_of_sorted_of_filter (pairwise_radixSort key _) ?_ fun k => ?_
  · exact List.pairwise_ofFn.2 fun i j before => Tuple.monotone_sort (key ∘ xs) before.le
  · rw [filter_radixSort, List.ofFn_eq_map, List.ofFn_eq_map, ← List.map_map, List.filter_map, List.filter_map]
    exact congrArg (List.map xs) (filter_map_sort (key ∘ xs) k).symm

section Positions

variable {keys : List Nat} {values : List α} (same : keys.length = values.length)

/-- The key and the value at a position. -/
def pairAt (i : Fin keys.length) : Nat × α :=
  (keys.get i, values.get (i.cast same))

theorem map_fst_pairAt : (List.ofFn (pairAt same)).map Prod.fst = keys := by
  rw [List.map_ofFn]
  exact List.ofFn_get keys

theorem map_snd_pairAt : (List.ofFn (pairAt same)).map Prod.snd = values := by
  rw [List.map_ofFn]
  exact List.ext_getElem (by rw [List.length_ofFn, same]) fun i _ _ => by simp [pairAt]

theorem radixSort_pairAt :
    radixSort Prod.fst (List.ofFn (pairAt same)) = List.ofFn (pairAt same ∘ Tuple.sort keys.get) :=
  radixSort_ofFn Prod.fst (pairAt same)

end Positions

theorem sortByKey_eq_endless {memory : Memory} {room : Tape Nat} {keys : List Nat}
    (granted : room.capacity < keys.length → memory.grants room.label keys.length = true) (values : List α)
    (keysOut : List Nat) (valuesOut : List α) :
    sortByKey memory room keys values keysOut valuesOut = sortByKey .endless room keys values keysOut valuesOut := by
  simp only [sortByKey, Tape.resize_eq_endless granted]

/-- Unless memory denies room that is not there yet, keys and values come
out as the one rearrangement puts them under which the keys do not decrease
and equal keys stay in order. It is the same for whatever room an earlier
sort left and whatever the outputs hold. -/
theorem sortByKey_stable (memory : Memory) (room : Tape Nat) {keys keysOut : List Nat} {values valuesOut : List α}
    (few : keys.length ≤ limit32) (sameValues : keys.length = values.length) (sameKeysOut : keysOut.length = keys.length)
    (sameValuesOut : valuesOut.length = keys.length)
    (granted : room.capacity < keys.length → memory.grants room.label keys.length = true) (m : Meter) :
    ∃ order, (∀ other, StableOrder keys other ↔ other = order) ∧
      ∃ tape m', (sortByKey memory room keys values keysOut valuesOut).run.run m =
        (.ok (tape, List.ofFn fun i => keys.get (order i), List.ofFn fun i => values.get ((order i).cast sameValues)),
          m') := by
  have length : (List.ofFn (pairAt sameValues)).length = keys.length := List.length_ofFn
  have leads : Leads (sortByKey .endless room ((List.ofFn (pairAt sameValues)).map Prod.fst)
      ((List.ofFn (pairAt sameValues)).map Prod.snd) keysOut valuesOut) m
      (fun r _ => r.2.1 = (radixSort Prod.fst (List.ofFn (pairAt sameValues))).map Prod.fst ∧
        r.2.2 = (radixSort Prod.fst (List.ofFn (pairAt sameValues))).map Prod.snd) fun _ _ => False :=
    leads_sortByKey (length.trans_le few) (sameKeysOut.trans length.symm) (sameValuesOut.trans length.symm)
      (fun _ => ⟨rfl, rfl⟩) fun e denied => Memory.not_endless_denies e denied
  rw [map_fst_pairAt, map_snd_pairAt, radixSort_pairAt, List.map_ofFn, List.map_ofFn] at leads
  obtain ⟨⟨tape, _, _⟩, m', run, rfl, rfl⟩ := leads.exists_ok
  rw [sortByKey_eq_endless granted]
  exact ⟨Tuple.sort keys.get, fun _ => stableOrder_iff, tape, m', run⟩

/-- The room of an earlier sort of more elements. -/
def usedRoom : Tape Nat :=
  ⟨sortTape.label, [4, 4, 4, 4, 4, 4], 5, by decide⟩

/-- A shorter sort in used room, over outputs that are not blank, by a
memory that grants nothing. -/
theorem sortByKey_in_usedRoom :
    [5, 1, 5, 1].length ≤ limit32 ∧ [5, 1, 5, 1].length = ['a', 'b', 'c', 'd'].length ∧
      [9, 9, 9, 9].length = [5, 1, 5, 1].length ∧ ['x', 'x', 'x', 'x'].length = [5, 1, 5, 1].length ∧
      ¬usedRoom.capacity < [5, 1, 5, 1].length ∧
      ∃ tape m', (sortByKey ⟨fun _ _ => false⟩ usedRoom [5, 1, 5, 1] ['a', 'b', 'c', 'd'] [9, 9, 9, 9]
        ['x', 'x', 'x', 'x']).run.run {} = (.ok (tape, [1, 1, 5, 5], ['b', 'd', 'a', 'c']), m') := by
  have few : [5, 1, 5, 1].length ≤ limit32 := by decide
  have sameValues : [5, 1, 5, 1].length = ['a', 'b', 'c', 'd'].length := rfl
  have sameKeysOut : [9, 9, 9, 9].length = [5, 1, 5, 1].length := rfl
  have sameValuesOut : ['x', 'x', 'x', 'x'].length = [5, 1, 5, 1].length := rfl
  have fits : ¬usedRoom.capacity < [5, 1, 5, 1].length := by decide
  obtain ⟨order, only, tape, m', run⟩ := sortByKey_stable ⟨fun _ _ => false⟩ usedRoom few sameValues sameKeysOut
    sameValuesOut (fun short => absurd short fits) {}
  have stable : StableOrder [5, 1, 5, 1] (Equiv.swap 0 1 * Equiv.swap 1 3 * Equiv.swap 3 2) :=
    ⟨by unfold Monotone; decide, by decide⟩
  obtain rfl := (only _).1 stable
  exact ⟨few, sameValues, sameKeysOut, sameValuesOut, fits, tape, m', run⟩

end ContactGrid
