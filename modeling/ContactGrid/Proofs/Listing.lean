import ContactGrid.Proofs.Building
import Mathlib.Algebra.Order.BigOperators.Group.List
import Mathlib.Algebra.Order.Ring.Nat

namespace ContactGrid

/-- A tape that was written up to its last cell takes one more value there. -/
theorem Tape.set_write {α : Type} {t : Tape α} {xs : List α} {n : Nat} (whole : t.length = xs.length + 1)
    (part : xs.length = n) (value : α) :
    ∃ u, (t.write xs).set n value = .ok u ∧ u.contents = xs ++ [value] := by
  have room : n < (t.write xs).length := by
    have same : (t.write xs).length = t.length := rfl
    omega
  have cells : (t.write xs).cells = xs ++ t.cells.drop xs.length := by
    have all : xs.take t.length = xs := List.take_of_length_le (by omega)
    simp only [write, all]
  refine ⟨_, if_pos room, ?_⟩
  obtain ⟨old, rest, shape⟩ := List.exists_cons_of_ne_nil (List.ne_nil_of_length_pos (l := t.cells.drop xs.length)
    (by rw [List.length_drop]; have := t.length_le; omega))
  have length : (t.write xs).length = xs.length + 1 := whole
  simp only [contents, cells, shape, length]
  rw [← part, List.set_append_right _ _ (Nat.le_refl _), Nat.sub_self, List.set_cons_zero,
    List.take_length_add_append]
  rfl

namespace Grid

variable (g : Grid Float32) (spheres : List (Sphere Float32))

/-- For each bucket in use the number of pairs that its cells own. -/
def pairCounts : List Nat :=
  (g.usedBuckets spheres).map fun k => (bucketPairs spheres (g.slotsOf spheres k)).length

theorem length_pairList : (g.pairList spheres).length = (g.pairCounts spheres).sum := by
  rw [pairList, List.length_flatMap]
  rfl

theorem sum_squares_le (sizes : List Nat) : (sizes.map fun n => n * n).sum ≤ sizes.sum * sizes.sum := by
  induction sizes with
  | nil => exact Nat.le_refl 0
  | cons n sizes ih =>
    rw [List.map_cons, List.sum_cons, List.sum_cons, Nat.add_mul, Nat.mul_add, Nat.mul_add]
    omega

theorem sum_pairCounts_le : (g.pairCounts spheres).sum ≤ (g.allSlots spheres).length * (g.allSlots spheres).length := by
  by_cases none : spheres = []
  · subst none
    exact Nat.le_refl 0
  have sizes : ((g.usedBuckets spheres).map fun k => (g.slotsOf spheres k).length).sum ≤
      (g.allSlots spheres).length := by
    rw [← length_radixSort Entry.bucket, ← flatten_keyGroups, keyGroups_allSlots none, List.flatten_append,
      List.length_append, List.length_flatten, List.map_map]
    exact Nat.le_add_right _ _
  have squares := sum_squares_le ((g.usedBuckets spheres).map fun k => (g.slotsOf spheres k).length)
  have counts : (g.pairCounts spheres).sum ≤
      (((g.usedBuckets spheres).map fun k => (g.slotsOf spheres k).length).map fun n => n * n).sum := by
    rw [pairCounts, List.map_map]
    exact List.sum_le_sum fun k _ => length_bucketPairs_le spheres (g.slotsOf spheres k)
  exact Nat.le_trans counts (Nat.le_trans squares (Nat.mul_le_mul sizes sizes))

end Grid

namespace Index

variable {x : Index} {g : Grid Float32} {spheres : List (Sphere Float32)}

theorem sum_pairCounts_lt (few : spheres.length ≤ maxObjects) : (g.pairCounts spheres).sum < limit64 := by
  have bound := Grid.sum_pairCounts_le g spheres
  have slots : (g.allSlots spheres).length < limit32 := length_allSlots_lt few
  have square : (g.allSlots spheres).length * (g.allSlots spheres).length < limit32 * limit32 :=
    Nat.mul_lt_mul'' slots slots
  have limit : limit32 * limit32 = limit64 := by decide
  omega

namespace Built

theorem hold (built : x.Built g spheres) :
    x.buckets.Hold spheres (keyGroups Entry.bucket (g.allSlots spheres)) where
  spheres := congrArg List.toArray built.bound
  entries := congrArg List.toArray (built.sorted.trans (flatten_keyGroups _ _).symm)
  sizes := congrArg List.toArray built.sizes
  offsets := congrArg List.toArray built.offsets

theorem validBuckets (built : x.Built g spheres) : x.validBuckets = (g.usedBuckets spheres).length := by
  rw [Index.validBuckets, built.buckets]
  by_cases none : spheres = []
  · subst none
    rfl
  · rw [Grid.keyGroups_allSlots none]
    simp

end Built

theorem getElem?_keyGroups {b k : Nat} (found : (g.usedBuckets spheres)[b]? = some k) :
    (keyGroups Entry.bucket (g.allSlots spheres))[b]? = some (g.slotsOf spheres k) := by
  have some : spheres ≠ [] := by
    rintro rfl
    cases found
  have within := (List.getElem?_eq_some_iff.1 found).1
  rw [Grid.keyGroups_allSlots some, List.getElem?_append_left (by rwa [List.length_map]), List.getElem?_map, found]
  rfl

section Passes

variable {s : Buckets} {b : Nat}

/-- Counting the pairs of a bucket does not overflow. -/
theorem Buckets.Hold.count_eq_ok (hold : s.Hold spheres (keyGroups Entry.bucket (g.allSlots spheres)))
    (few : spheres.length ≤ maxObjects) {count : Nat} (atCount : (g.pairCounts spheres)[b]? = some count) :
    s.count b = .ok count := by
  rw [Grid.pairCounts, List.getElem?_map] at atCount
  obtain ⟨k, found, rfl⟩ := Option.map_eq_some_iff.1 atCount
  have used := (Grid.mem_usedBuckets.1 (List.mem_of_getElem? found)).1
  have counted : (bucketPairs spheres (g.slotsOf spheres k)).length ∈ g.pairCounts spheres :=
    List.mem_map.2 ⟨k, List.mem_of_getElem? found, rfl⟩
  exact Buckets.count_eq_ok hold (getElem?_keyGroups found) (listed_slotsOf used)
    (Nat.lt_of_le_of_lt (List.le_sum_of_mem counted) (sum_pairCounts_lt few))

theorem Buckets.Hold.emit_eq_ok (hold : s.Hold spheres (keyGroups Entry.bucket (g.allSlots spheres)))
    {room pairs : List Pair}
    (atPairs : ((g.usedBuckets spheres).map fun k => bucketPairs spheres (g.slotsOf spheres k))[b]? = some pairs)
    (same : (g.pairCounts spheres)[b]? = some room.length) : s.emit b room = .ok pairs := by
  rw [List.getElem?_map] at atPairs
  obtain ⟨k, found, rfl⟩ := Option.map_eq_some_iff.1 atPairs
  have used := (Grid.mem_usedBuckets.1 (List.mem_of_getElem? found)).1
  rw [Grid.pairCounts, List.getElem?_map, found] at same
  exact Buckets.emit_eq_ok hold (getElem?_keyGroups found) (listed_slotsOf used) (Option.some.inj same).symm

end Passes

namespace Built

variable {b : Nat}

theorem count_eq_ok (built : x.Built g spheres) {count : Nat} (atCount : (g.pairCounts spheres)[b]? = some count) :
    x.buckets.count b = .ok count :=
  built.hold.count_eq_ok built.few atCount

theorem emit_eq_ok (built : x.Built g spheres) {room pairs : List Pair}
    (atPairs : ((g.usedBuckets spheres).map fun k => bucketPairs spheres (g.slotsOf spheres k))[b]? = some pairs)
    (same : (g.pairCounts spheres)[b]? = some room.length) : x.buckets.emit b room = .ok pairs :=
  built.hold.emit_eq_ok atPairs same

theorem visit_eq_ok (built : x.Built g spheres) {k : Nat} (found : (g.usedBuckets spheres)[b]? = some k) {σ : Type}
    (visit : σ → Pair → σ) (state : σ) :
    (do enumerate x.buckets.spheres (fun state pair => return visit state pair) (← x.buckets.bucket b) state :
        Except Fault σ) =
      .ok ((bucketPairs spheres (g.slotsOf spheres k)).foldl visit state) := by
  have used := (Grid.mem_usedBuckets.1 (List.mem_of_getElem? found)).1
  rw [Buckets.bucket_eq_ok built.hold (getElem?_keyGroups found), Fault.ok_bind, built.hold.spheres,
    enumerate_eq (listed_slotsOf used), List.foldlM_pure]
  rfl

end Built

theorem sumsBefore_pairCounts (g : Grid Float32) (spheres : List (Sphere Float32)) :
    sumsBefore 0 (g.pairCounts spheres ++ [0]) =
      sumsBefore 0 (g.pairCounts spheres) ++ [(g.pairList spheres).length] := by
  rw [sumsBefore_append, Nat.zero_add, ← Grid.length_pairList]
  rfl

/-- Counting finds the number of all pairs, and where the pairs of each
bucket belong. -/
theorem leads_countPairs {memory : Memory} {s : Session} (built : s.index.Built g spheres)
    {done : Nat → Session → Prop} {failed : Failure → Session → Prop}
    (counted : ∀ pairSizes pairOffsets pairBases, pairSizes.contents = g.pairCounts spheres ++ [0] →
      pairOffsets.contents = sumsBefore 0 (g.pairCounts spheres) ++ [(g.pairList spheres).length] →
      done (g.pairList spheres).length
        { s with
          index := { s.index with pairSizes, pairOffsets, pairBases }
          meter := ((s.meter.launchedOver .heavy (g.usedBuckets spheres).length).launched .light).waited })
    (denied : ∀ e, memory.Denies e →
      s.index.pairSizes.capacity < s.index.bucketCount ∨ s.index.pairOffsets.capacity < s.index.bucketCount →
      ∀ pairSizes pairOffsets, failed e { s with index := { s.index with pairSizes, pairOffsets } })
    (some : spheres ≠ []) :
    Leads (countPairs memory (g.usedBuckets spheres).length) s done failed := by
  have length : s.index.bucketCount = (g.pairCounts spheres).length + 1 := by
    rw [built.buckets, Grid.keyGroups_allSlots some, List.length_append, List.length_map, Grid.pairCounts,
      List.length_map]
    rfl
  have counts : (g.usedBuckets spheres).length = (g.pairCounts spheres).length := (List.length_map _).symm
  unfold countPairs
  simp only [Leads.bind_iff, Action.leads_onIndex, Action.leads_index]
  rw [counts]
  refine Action.leads_resize_or_short (fun pairSizes lengthS => ?_) fun e refused short =>
    denied e refused (Or.inl short) _ _
  refine Action.leads_resize_or_short (fun pairOffsets lengthO => ?_) fun e refused short =>
    denied e refused (Or.inr short) _ _
  rw [length] at lengthS lengthO
  have part : slice pairSizes.contents 0 (g.pairCounts spheres).length =
      .ok (pairSizes.contents.take (g.pairCounts spheres).length) := by
    rw [slice, if_pos (by rw [Tape.length_contents, lengthS]; omega), List.drop_zero]
  rw [part, Action.leads_ofFault_ok, Action.leads_metered]
  rw [Metered.leads_eachElement (g.pairCounts spheres) (by rw [List.length_take, Tape.length_contents, lengthS]; omega)]
  · obtain ⟨sizes, set, contents⟩ := Tape.set_write lengthS rfl 0
    have total : (g.pairCounts spheres ++ [0]).sum < limit64 := by
      rw [List.sum_append]
      exact sum_pairCounts_lt built.few
    rw [set, Action.leads_ofFault_ok, Action.leads_metered, contents]
    rw [leads_exclusiveSums (by rw [Tape.length_contents, lengthO, List.length_append]; rfl) total]
    have offsets : (pairOffsets.write (sumsBefore 0 (g.pairCounts spheres ++ [0]))).contents =
        sumsBefore 0 (g.pairCounts spheres) ++ [(g.pairList spheres).length] := by
      rw [Tape.contents_write (by rw [length_sumsBefore, lengthO, List.length_append]; rfl), sumsBefore_pairCounts]
    have last : (pairOffsets.write (sumsBefore 0 (g.pairCounts spheres ++ [0]))).get? (g.pairCounts spheres).length =
        Option.some (g.pairList spheres).length := by
      rw [Tape.get?_eq_getElem?, offsets, List.getElem?_append_right (by rw [length_sumsBefore]), length_sumsBefore,
        Nat.sub_self]
      rfl
    simp only [Action.leads_metered, Metered.readCell, last, Metered.leads_readBack]
    have blank : (g.pairCounts spheres ++ [0]).isEmpty = false := by simp
    have finish := counted sizes _ (sumsBefore 0 ((Metered.pieces tileSize (g.pairCounts spheres ++ [0])).map List.sum))
      contents offsets
    rw [counts] at finish
    rw [blank, List.length_append]
    exact finish
  · intro b _ count _ atCount
    exact built.count_eq_ok atCount

/-- Every bucket writes as many pairs as it counted, and the parts make up
the list. -/
theorem leads_emitPairs {memory : Memory} {s : Session} (built : s.index.Built g spheres) {rest : List Nat}
    (sizes : s.index.pairSizes.contents = g.pairCounts spheres ++ rest)
    (offsets : s.index.pairOffsets.contents = sumsBefore 0 (g.pairCounts spheres) ++ [(g.pairList spheres).length])
    {done : Unit → Session → Prop} {failed : Failure → Session → Prop}
    (emitted : ∀ pairs, pairs.contents = g.pairList spheres → done ()
      { s with pairs, meter := s.meter.launchedOver .heavy (g.usedBuckets spheres).length })
    (denied : ∀ e, memory.Denies e → s.pairs.capacity < (g.pairList spheres).length → failed e s) :
    Leads (emitPairs memory (g.usedBuckets spheres).length (g.pairList spheres).length) s done failed := by
  have counts : (g.usedBuckets spheres).length = (g.pairCounts spheres).length := (List.length_map _).symm
  unfold emitPairs
  simp only [Leads.bind_iff, Leads.get_iff, Leads.modify_iff, Action.leads_index]
  refine Action.leads_resize_or_short (fun pairs length => ?_) denied
  have whole : pairs.contents.length = (g.pairCounts spheres).sum := by
    rw [Tape.length_contents, length, Grid.length_pairList]
  have plan : s.index.pairSizes.contents.take (g.usedBuckets spheres).length = g.pairCounts spheres := by
    rw [sizes, List.take_left' counts.symm]
  rw [plan, offsets, cutParts_eq_ok whole, Action.leads_ofFault_ok, Action.leads_metered]
  rw [Metered.leads_eachElement ((g.usedBuckets spheres).map fun k => bucketPairs spheres (g.slotsOf spheres k))
    (by rw [List.length_splitLengths, List.length_map, counts])]
  · have all : ((g.usedBuckets spheres).map fun k => bucketPairs spheres (g.slotsOf spheres k)).flatten =
        g.pairList spheres := List.flatMap_def.symm
    rw [all, List.length_map]
    exact emitted _ (Tape.contents_write length.symm)
  · intro b room pairsOf atRoom atPairs
    have lengths := List.map_splitLengths_length pairs.contents (g.pairCounts spheres) (Nat.le_of_eq whole.symm)
    refine built.emit_eq_ok atPairs ?_
    rw [← lengths, List.getElem?_map, atRoom]
    rfl

/-- The numbers of pairs that counting leaves. Without spheres nothing is
counted. -/
def countedPairs (g : Grid Float32) (spheres : List (Sphere Float32)) : List Nat :=
  if spheres.isEmpty then [] else g.pairCounts spheres ++ [0]

/-- Counting and writing take two heavy launches and a sum, for which the
caller waits. -/
def listingMeter (m : Meter) (spheres : List (Sphere Float32)) : Meter :=
  if spheres.isEmpty then m else (((m.launched .heavy).launched .light).waited).launched .heavy

/-- What a list of pairs needs more room for than a session has. -/
def ShortOfRoom (s : Session) (g : Grid Float32) (spheres : List (Sphere Float32)) : Prop :=
  s.index.pairSizes.capacity < s.index.bucketCount ∨ s.index.pairOffsets.capacity < s.index.bucketCount ∨
    s.pairs.capacity < (g.pairList spheres).length

/-- The list comes to hold the pairs of all buckets, whatever it held
before. Only tapes of pairs change in the index, and if it has listed its
pairs before, there is room for them. -/
theorem leads_listing {memory : Memory} {s : Session} (built : s.index.Built g spheres)
    {done : Unit → Session → Prop} {failed : Failure → Session → Prop}
    (listed : ∀ pairSizes pairOffsets pairBases pairs journal,
      pairSizes.contents = countedPairs g spheres → pairOffsets.contents = sumsBefore 0 (countedPairs g spheres) →
      pairs.contents = g.pairList spheres → done ()
        { s with
          index := { s.index with pairCount := (g.pairList spheres).length, pairSizes, pairOffsets, pairBases }
          pairs
          meter := listingMeter s.meter spheres
          journal })
    (denied : ∀ e, memory.Denies e → spheres ≠ [] → ShortOfRoom s g spheres →
      ∀ pairSizes pairOffsets pairBases meter, failed e
        { s with index := { s.index with pairCount := 0, pairSizes, pairOffsets, pairBases }, meter }) :
    Leads (listPairs memory) s done failed := by
  unfold listPairs
  rw [Leads.bind_iff, leads_requireStage, built.stage, if_neg (Nat.lt_irrefl _)]
  simp only [Leads.bind_iff, Action.leads_onIndex, Action.leads_index]
  have valid : s.index.bucketCount - 1 = (g.usedBuckets spheres).length := built.validBuckets
  simp only [Index.validBuckets, valid]
  by_cases none : spheres = []
  · subst none
    exact listed s.index.pairSizes.clear s.index.pairOffsets.clear _ s.pairs.clear s.journal rfl rfl rfl
  · have used : (g.usedBuckets spheres).length ≠ 0 := fun zero =>
      none (Grid.usedBuckets_eq_nil.1 (List.length_eq_zero_iff.1 zero))
    have some : spheres.isEmpty = false := by simpa using none
    rw [countedPairs, listingMeter, some] at listed
    rw [if_neg used]
    simp only [Leads.bind_iff]
    refine leads_countPairs ?_ (fun pairSizes pairOffsets pairBases sizes offsets => ?_)
      (fun e refused short _ _ => denied e refused none ?_ _ _ _ _) none
    · exact { built with }
    · refine leads_emitPairs ?_ sizes offsets (fun pairs contents => ?_) fun e refused short =>
        denied e refused none (Or.inr (Or.inr short)) _ _ _ _
      · exact { built with }
      · rw [← sumsBefore_pairCounts] at offsets
        have finish := listed pairSizes pairOffsets pairBases pairs
          (s.journal.note (.listed (g.pairList spheres).length (g.usedBuckets spheres).length)) sizes offsets contents
        simp only [Meter.launchedOver, used, if_false]
        exact finish
    · rcases short with sizes | offsets
      · exact Or.inl sizes
      · exact Or.inr (Or.inl offsets)

theorem leads_listPairs {memory : Memory} {s : Session} (built : s.index.Built g spheres)
    {done : Unit → Session → Prop} {failed : Failure → Session → Prop}
    (listed : ∀ t : Session, t.index.Built g spheres → t.index.pairCount = (g.pairList spheres).length →
      t.pairs.contents = g.pairList spheres → done () t)
    (denied : ∀ e, memory.Denies e → ∀ t, failed e t) :
    Leads (listPairs memory) s done failed :=
  leads_listing built
    (fun _ _ _ _ _ _ _ contents => listed _ { built with } rfl contents) fun e refused _ _ _ _ _ _ =>
    denied e refused _

/-- Visiting goes through the same pairs as the list, bucket by bucket. -/
theorem leads_visitPairs {σ : Type} {visit : σ → Pair → σ} {start : σ} {s : Session} (built : s.index.Built g spheres)
    {done : σ → Session → Prop} {failed : Failure → Session → Prop} :
    Leads (visitPairs visit start) s done failed ↔
      done ((g.pairList spheres).foldl visit start)
        { s with meter := s.meter.launchedOver .heavy (g.usedBuckets spheres).length } := by
  unfold visitPairs
  rw [Leads.bind_iff, leads_requireStage, built.stage, if_neg (Nat.lt_irrefl _), Leads.bind_iff, Action.leads_index,
    built.validBuckets, Action.leads_metered]
  rw [Metered.leads_eachIndex (g.usedBuckets spheres) fun state k =>
    (bucketPairs spheres (g.slotsOf spheres k)).foldl visit state]
  · rw [Grid.pairList, List.foldl_flatMap]
  · intro b k state found
    exact built.visit_eq_ok found visit state

end Index

end ContactGrid
