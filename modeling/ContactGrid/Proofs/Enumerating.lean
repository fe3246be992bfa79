import ContactGrid.Proofs.BucketPairs
import Mathlib.Algebra.BigOperators.Group.List.Lemmas
import Mathlib.Data.List.SplitLengths

namespace ContactGrid

namespace Entry

theorem anyM_eq_ok {p : Nat → Except Fault Bool} {q : Nat → Bool} {xs : List Nat} (steps : ∀ x ∈ xs, p x = .ok (q x)) :
    xs.anyM p = .ok (xs.any q) := by
  induction xs with
  | nil => rfl
  | cons x xs ih =>
    rw [List.anyM_cons, steps x List.mem_cons_self, List.any_cons]
    cases q x with
    | true => rfl
    | false => exact ih fun y member => steps y (List.mem_cons_of_mem x member)

theorem checkedCellOf_occupying {B : Block} {c : Cell} {object bucket mask : Nat} (bounded : B.Bounded)
    (small : mask < 256) (member : c ∈ B) (q : Nat) :
    (occupying object bucket c B.home B.direction mask).checkedCellOf q =
      .ok ((occupying object bucket c B.home B.direction mask).cellOf q) := by
  rw [checkedCellOf, cellOf_occupying small member, if_pos]
  exact bounded.signed (B.cell_mem q)

theorem checkedOwnedElsewhere_of_cells {e f : Entry} (same : e.cell = f.cell)
    (he : ∀ q, e.checkedCellOf q = .ok (e.cellOf q)) (hf : ∀ q, f.checkedCellOf q = .ok (f.cellOf q)) :
    e.checkedOwnedElsewhere f = .ok (e.ownedElsewhere f) := by
  rw [checkedOwnedElsewhere, Fault.check_eq_ok (decide_eq_true same)]
  refine anyM_eq_ok fun q _ => ?_
  rw [he, hf]
  rfl

variable {g : Grid Float32} {s t : Sphere Float32} {e f : Entry} {i j : Nat}

theorem checkedCellOf_eq_ok (recorded : e ∈ g.entries s i) (q : Nat) : e.checkedCellOf q = .ok (e.cellOf q) := by
  obtain ⟨c, member, rfl⟩ := Grid.mem_entries.1 recorded
  exact checkedCellOf_occupying (Grid.bounded_block g s) (Grid.parityMask_lt _) (Grid.recordedCells_mem member) q

/-- Neither the common cell nor the coordinates of a block are ever found
wanting. -/
theorem checkedOwnedElsewhere_eq_ok (he : e ∈ g.entries s i) (hf : f ∈ g.entries t j) (same : e.cell = f.cell) :
    e.checkedOwnedElsewhere f = .ok (e.ownedElsewhere f) :=
  checkedOwnedElsewhere_of_cells same (checkedCellOf_eq_ok he) (checkedCellOf_eq_ok hf)

end Entry

namespace Index

variable {σ : Type} {g : Grid Float32} {spheres : List (Sphere Float32)} {accept : σ → Pair → Except Fault σ}
  {e f : Entry} {entries : List Entry}

theorem meet_eq {s t : Sphere Float32} (atE : spheres[e.object]? = some s) (atF : spheres[f.object]? = some t)
    (he : e ∈ g.entries s e.object) (hf : f ∈ g.entries t f.object) (before : e.object < f.object) (state : σ) :
    meet spheres.toArray accept e s state f =
      if e.pairsWith spheres f then accept state ⟨e.object, f.object⟩ else .ok state := by
  have fetched : Fault.fetch spheres.toArray f.object = .ok t := Fault.fetch_eq_ok (by simpa using atF)
  unfold meet Entry.pairsWith
  rw [atE, atF, Option.any_some, Option.any_some]
  by_cases same : e.cell = f.cell
  · rw [if_neg (not_not.2 same), Entry.checkedOwnedElsewhere_eq_ok he hf same, decide_eq_true same]
    cases e.ownedElsewhere f with
    | true => rfl
    | false =>
      simp only [Fault.ok_bind, Bool.false_eq_true, if_false, Fault.check_eq_ok (decide_eq_true before), fetched]
      rfl
  · rw [if_pos same, decide_eq_false same]
    rfl

theorem foldlM_congr {α : Type} {f g : σ → α → Except Fault σ} {xs : List α}
    (steps : ∀ x ∈ xs, ∀ state, f state x = g state x) (state : σ) : xs.foldlM f state = xs.foldlM g state := by
  induction xs generalizing state with
  | nil => rfl
  | cons x xs ih =>
    rw [List.foldlM_cons, List.foldlM_cons, steps x List.mem_cons_self]
    congr 1
    funext next
    exact ih (fun y member => steps y (List.mem_cons_of_mem x member)) next

/-- Going through a bucket hands over its list of pairs, and no check on the
way fails. -/
theorem enumerate_eq (listed : Listed g spheres entries) (state : σ) :
    enumerate spheres.toArray accept entries state = (bucketPairs spheres entries).foldlM accept state := by
  induction entries generalizing state with
  | nil => rfl
  | cons e rest ih =>
    obtain ⟨s, atE, he⟩ := listed.recorded e List.mem_cons_self
    have used : (!e.isSentinel) = true := by
      rw [Entry.isSentinel, Bool.not_eq_true', decide_eq_false_iff_not]
      exact Grid.not_sentinel_of_mem_entries he
    have fetched : Fault.fetch spheres.toArray e.object = .ok s := Fault.fetch_eq_ok (by simpa using atE)
    have steps : ∀ f ∈ rest, ∀ state, meet spheres.toArray accept e s state f =
        if e.pairsWith spheres f then accept state ⟨e.object, f.object⟩ else pure state := by
      intro f member state
      obtain ⟨t, atF, hf⟩ := listed.recorded f (List.mem_cons_of_mem e member)
      exact meet_eq atE atF he hf ((List.pairwise_cons.1 listed.ordered).1 f member) state
    rw [enumerate, Fault.check_eq_ok used, Fault.ok_bind, fetched, Fault.ok_bind, bucketPairs, List.foldlM_append,
      List.foldlM_map, List.foldlM_filter, ← foldlM_congr steps]
    congr 1
    funext next
    exact ih listed.tail next

theorem foldlM_count {pairs : List Pair} {start : Nat} (fits : start + pairs.length < limit64) :
    pairs.foldlM (fun count _ => Fault.add limit64 count 1) start = .ok (start + pairs.length) := by
  induction pairs generalizing start with
  | nil => rfl
  | cons p pairs ih =>
    rw [List.length_cons] at fits ⊢
    rw [List.foldlM_cons, Fault.add_eq_ok (by omega), Fault.ok_bind, ih (by omega)]
    congr 1
    omega

theorem foldlM_emit {pairs written rest : List Pair} (same : rest.length = pairs.length) :
    pairs.foldlM emit (written.length, written ++ rest) =
      .ok ((written ++ pairs).length, written ++ pairs) := by
  induction pairs generalizing written rest with
  | nil =>
    rw [List.length_eq_zero_iff.1 same, List.foldlM_nil, List.append_nil]
    rfl
  | cons p pairs ih =>
    obtain ⟨old, rest, rfl⟩ := List.exists_cons_of_length_eq_add_one same
    have room : written.length < (written ++ old :: rest).length := by simp
    have place : (written ++ old :: rest).set written.length p = written ++ [p] ++ rest := by simp
    have next : pairs.foldlM emit ((written ++ [p]).length, written ++ [p] ++ rest) = _ := ih (Nat.succ.inj same)
    rw [List.foldlM_cons, emit, if_pos room, Fault.ok_bind, place]
    rw [List.length_append, List.length_singleton] at next
    rw [next, List.append_assoc]
    rfl

/-- The tapes hold groups one after another, with their sizes and the places
at which they start. -/
structure Buckets.Hold (s : Buckets) (spheres : List (Sphere Float32)) (parts : List (List Entry)) : Prop where
  spheres : s.spheres = spheres.toArray
  entries : s.entries = parts.flatten.toArray
  sizes : s.sizes = (parts.map List.length).toArray
  offsets : s.offsets = (sumsBefore 0 (parts.map List.length)).toArray

variable {s : Buckets} {parts : List (List Entry)} {b : Nat} {part : List Entry}

theorem Buckets.bucket_eq_ok (hold : s.Hold spheres parts) (found : parts[b]? = some part) :
    s.bucket b = .ok part := by
  obtain ⟨within, rfl⟩ := List.getElem?_eq_some_iff.1 found
  have start : Fault.fetch s.offsets b = .ok ((parts.map List.length).take b).sum := by
    rw [hold.offsets]
    exact Fault.fetch_eq_ok (by rw [List.getElem?_toArray, getElem?_sumsBefore (by simpa using within), Nat.zero_add])
  have size : Fault.fetch s.sizes b = .ok parts[b].length := by
    rw [hold.sizes]
    exact Fault.fetch_eq_ok (by simp [found])
  have grown : ((parts.map List.length).take b).sum + parts[b].length = ((parts.map List.length).take (b + 1)).sum := by
    rw [List.take_add_one, List.sum_append]
    simp [within]
  have room : ((parts.map List.length).take (b + 1)).sum ≤ s.entries.size := by
    have split := congrArg List.sum (List.take_append_drop (b + 1) (parts.map List.length))
    rw [List.sum_append] at split
    rw [hold.entries, List.size_toArray, List.length_flatten]
    omega
  rw [Buckets.bucket, start, Fault.ok_bind, size, Fault.ok_bind, grown, if_pos room, hold.entries,
    ← List.drop_take_succ_flatten_eq_getElem parts b within, Array.toList_extract, List.extract_eq_take_drop,
    List.drop_take]
  rfl

theorem Buckets.count_eq_ok (hold : s.Hold spheres parts) (found : parts[b]? = some part)
    (listed : Listed g spheres part) (fits : (bucketPairs spheres part).length < limit64) :
    s.count b = .ok (bucketPairs spheres part).length := by
  rw [Buckets.count, bucket_eq_ok hold found, Fault.ok_bind, hold.spheres, enumerate_eq listed,
    foldlM_count (by omega), Nat.zero_add]

theorem Buckets.emit_eq_ok (hold : s.Hold spheres parts) (found : parts[b]? = some part)
    (listed : Listed g spheres part) {room : List Pair} (same : room.length = (bucketPairs spheres part).length) :
    s.emit b room = .ok (bucketPairs spheres part) := by
  have written : (bucketPairs spheres part).foldlM Index.emit (0, room) =
      .ok ((bucketPairs spheres part).length, bucketPairs spheres part) := @foldlM_emit _ [] _ same
  rw [Buckets.emit, bucket_eq_ok hold found, Fault.ok_bind, hold.spheres, enumerate_eq listed, written, Fault.ok_bind]
  change (Fault.check _ _ >>= fun _ => _) = _
  rw [Fault.check_eq_ok (decide_eq_true rfl)]
  rfl

theorem Cut.next_eq_ok {α : Type} {list : List α} {size : Nat} (room : size ≤ list.length) (done : Array (List α))
    (consumed : Nat) :
    Cut.next ⟨done, consumed, list⟩ (size, consumed) =
      .ok ⟨done.push (list.take size), consumed + size, list.drop size⟩ := by
  have fits : ¬list.length < size := Nat.not_lt.2 room
  simp only [Cut.next, if_neg fits]
  rfl

theorem foldlM_next {α : Type} {sizes : List Nat} {list : List α} {done : Array (List α)} {consumed : Nat}
    (whole : list.length = sizes.sum) (more : List Nat) :
    (sizes.zip (sumsBefore consumed sizes ++ more)).foldlM Cut.next ⟨done, consumed, list⟩ =
      .ok ⟨done ++ (sizes.splitLengths list).toArray, consumed + sizes.sum, []⟩ := by
  induction sizes generalizing list done consumed with
  | nil =>
    rw [List.length_eq_zero_iff.1 whole]
    simp [sumsBefore]
    rfl
  | cons size sizes ih =>
    rw [List.sum_cons] at whole
    rw [sumsBefore, List.cons_append, List.zip_cons_cons, List.foldlM_cons, Cut.next_eq_ok (by omega), Fault.ok_bind,
      ih (by rw [List.length_drop]; omega)]
    simp [Nat.add_assoc]

/-- A list is cut up without remainder where the sizes add up to its
length. -/
theorem cutParts_eq_ok {α : Type} {sizes : List Nat} {list : List α} (whole : list.length = sizes.sum)
    (more : List Nat) :
    cutParts (sizes.zip (sumsBefore 0 sizes ++ more)) list = .ok (sizes.splitLengths list) := by
  rw [cutParts, foldlM_next whole, Fault.ok_bind]
  change (Fault.check true _ >>= fun _ => Except.ok (#[] ++ (sizes.splitLengths list).toArray).toList) = _
  rw [Fault.check_eq_ok rfl, Fault.ok_bind, Array.toList_append]
  rfl

end Index

end ContactGrid
