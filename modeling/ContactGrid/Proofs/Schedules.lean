import ContactGrid.Proofs.Modes
import ContactGrid.Proofs.TaskOrder

namespace ContactGrid

variable {α : Type}

/-- Launches that write to a buffer, from the slots of the objects to the
list of pairs. -/
inductive Site where
  | slots
  | keys
  | words
  | sortedKeys
  | sortedEntries
  | runs
  | bucketTiles
  | bucketOffsets
  | pairSizes
  | pairTiles
  | pairOffsets
  | pairs

/-- An order for the tasks of each launch, however many there are. -/
structure Schedule where
  order : Site → Nat → List Nat
  perm : ∀ site count, (order site count).Perm (List.range count)

/-- What each place of a buffer holds before the launch. -/
structure Leftovers where
  entry : Site → Nat → Entry
  word : Site → Nat → Nat
  run : Site → Nat → Nat × Nat
  pair : Site → Nat → Pair

namespace Schedule

/-- Runs the tasks of a launch on a buffer of some length. -/
def launch (schedule : Schedule) (site : Site) (left : Site → Nat → α) (count : Nat) (tasks : Tasks α) :
    Except Fault (List α) :=
  tasks.run (schedule.order site tasks.places.length) ((List.range count).map (left site))

def elements (schedule : Schedule) (site : Site) (left : Site → Nat → α) (count : Nat)
    (body : Nat → Except Fault α) : Except Fault (List α) :=
  schedule.launch site left count (.elements count fun i _ => body i)

def pieces (schedule : Schedule) (site : Site) (left : Site → Nat → α) (size count : Nat)
    (body : Nat → List α → Except Fault (List α)) : Except Fault (List α) :=
  schedule.launch site left count (.pieces size count body)

/-- The slots of all objects and the sentinel behind them, then the bucket
of every slot. -/
def fill (schedule : Schedule) (left : Leftovers) (g : Grid Float32) (spheres : List (Sphere Float32)) :
    Except Fault (List Entry × List Nat) := do
  if spheres.isEmpty then return ([], [])
  let sphereAt := spheres.toArray
  let written ← schedule.pieces .slots left.entry slotsPerObject (spheres.length * slotsPerObject)
    fun i slots => do g.writeSlots (← Fault.fetch sphereAt i) i slots
  let entries := written ++ [Entry.sentinel]
  let entryAt := entries.toArray
  let keys ← schedule.elements .keys left.word entries.length fun i => (Fault.fetch entryAt i).map (·.bucket)
  return (entries, keys)

/-- Words of keys and positions, and what the sorted words fetch. -/
def sort (schedule : Schedule) (left : Leftovers) (keys : List Nat) (entries : List Entry) :
    Except Fault (List Nat × List Entry) := do
  if keys.length < 2 then return (keys, entries)
  let keyAt := keys.toArray
  let packed ← schedule.elements .words left.word keys.length
    fun i => (Fault.fetch keyAt i).map fun key => key * limit32 + i
  let wordAt := (radixSort id packed).toArray
  let entryAt := entries.toArray
  let sortedKeys ← schedule.elements .sortedKeys left.word keys.length
    fun i => (Fault.fetch wordAt i).map (· / limit32)
  let sortedEntries ← schedule.elements .sortedEntries left.entry keys.length
    fun i => do Fault.fetch entryAt ((← Fault.fetch wordAt i) % limit32)
  return (sortedKeys, sortedEntries)

/-- Sums of all earlier elements. The tiles are summed, the caller adds up
their sums, and the tiles are gone through again. -/
def sums (schedule : Schedule) (left : Leftovers) (tiles outputs : Site) (limit : Nat) (input : List Nat) :
    Except Fault (List Nat) := do
  let tileAt := (Metered.pieces tileSize input).toArray
  let totals ← schedule.elements tiles left.word tileAt.size fun i => do checkedSum limit (← Fault.fetch tileAt i)
  let baseAt := (← runningSums limit 0 totals).toArray
  schedule.pieces outputs left.word tileSize input.length
    fun i _ => do runningSums limit (← Fault.fetch baseAt i) (← Fault.fetch tileAt i)

/-- Keys and sizes of the buckets, a task for both of a bucket, and the
offsets. -/
def group (schedule : Schedule) (left : Leftovers) (sortedKeys : List Nat) :
    Except Fault (List Nat × List Nat × List Nat) := do
  let keyAt := sortedKeys.toArray
  let headAt := (runHeads keyAt).toArray
  let runs ← schedule.elements .runs left.run headAt.size fun r => do
    let head ← Fault.fetch headAt r
    return (← Fault.fetch keyAt head, ← Fault.sub (headAt.getD (r + 1) sortedKeys.length) head)
  let sizes := runs.map Prod.snd
  let offsets ← schedule.sums left .bucketTiles .bucketOffsets limit32 sizes
  return (runs.map Prod.fst, sizes, offsets)

/-- Numbers of pairs, their offsets, and the list of pairs. The list is cut
up by what was counted, and every bucket writes to its own part. -/
def list (schedule : Schedule) (left : Leftovers) (buckets : Index.Buckets) (valid : Nat) :
    Except Fault (List Nat × List Nat × List Pair) := do
  if valid = 0 then return ([], [], [])
  let counts ← schedule.elements .pairSizes left.word valid buckets.count
  let sizes := counts ++ [0]
  let offsets ← schedule.sums left .pairTiles .pairOffsets limit64 sizes
  let total ← Fault.fetch offsets.toArray valid
  let places ← Index.cutParts (counts.zip offsets) (List.range total)
  let pairs ← schedule.launch .pairs left.pair total ⟨places, buckets.emit⟩
  return (sizes, offsets, pairs)

variable {schedule : Schedule} {site : Site} {count : Nat}

theorem elements_eq_ok {left : Site → Nat → α} {body : Nat → Except Fault α} {out : List α}
    (whole : count = out.length) (steps : ∀ i y, out[i]? = some y → body i = .ok y) :
    schedule.elements site left count body = .ok out := by
  subst whole
  exact Tasks.run_elements (by simp) (fun i _ y _ atY => steps i y atY) (schedule.perm _ _)

theorem pieces_eq_ok {left : Site → Nat → α} {size : Nat} {body : Nat → List α → Except Fault (List α)}
    {out : List α} (positive : 0 < size) (whole : count = out.length)
    (steps : ∀ i piece last, (Metered.pieces size ((List.range count).map (left site)))[i]? = some piece →
      (Metered.pieces size out)[i]? = some last → body i piece = .ok last) :
    schedule.pieces site left size count body = .ok out := by
  subst whole
  exact Tasks.run_pieces positive (by simp) steps (schedule.perm _ _)

variable {left : Leftovers} {g : Grid Float32} {spheres : List (Sphere Float32)}

theorem pieces_slots (g : Grid Float32) (spheres : List (Sphere Float32)) :
    Metered.pieces slotsPerObject (spheres.mapIdx fun i sphere => g.slots sphere i).flatten =
      spheres.mapIdx fun i sphere => g.slots sphere i := by
  have whole : (spheres.mapIdx fun i sphere => g.slots sphere i).flatten.length = spheres.length * slotsPerObject :=
    Grid.length_flatten_slots g spheres
  refine List.eq_iff_flatten_eq.2 ⟨Metered.flatten_pieces (by decide) _, ?_⟩
  rw [Metered.map_length_pieces (by decide) whole, Grid.map_length_slots]
  rfl

theorem pieces_sumsBefore (input : List Nat) :
    Metered.pieces tileSize (sumsBefore 0 input) =
      ((sumsBefore 0 ((Metered.pieces tileSize input).map List.sum)).zip (Metered.pieces tileSize input)).map
        fun p => sumsBefore p.1 p.2 := by
  have tiles : (sumsBefore 0 ((Metered.pieces tileSize input).map List.sum)).length =
      (Metered.pieces tileSize input).length := by
    rw [length_sumsBefore, List.length_map]
  refine List.eq_iff_flatten_eq.2 ⟨?_, ?_⟩
  · rw [flatten_tileSums, Metered.flatten_pieces (by decide), Metered.flatten_pieces (by decide)]
  · rw [Metered.map_length_pieces_congr (length_sumsBefore 0 input), List.map_map]
    have parts : (List.length ∘ fun p : Nat × List Nat => sumsBefore p.1 p.2) = List.length ∘ Prod.snd :=
      funext fun p => length_sumsBefore p.1 p.2
    rw [parts, ← List.map_map, List.map_snd_zip (Nat.le_of_eq tiles.symm)]

theorem fetch_run {runs : List (Nat × Nat)} (valid : Runs runs) {i : Nat} {r : Nat × Nat}
    (atRun : runs[i]? = some r) :
    (do
      let head ← Fault.fetch (sumsBefore 0 (runs.map Prod.snd)).toArray i
      return (← Fault.fetch (expand runs).toArray head,
        ← Fault.sub ((sumsBefore 0 (runs.map Prod.snd)).toArray.getD (i + 1) (expand runs).length) head) :
      Except Fault (Nat × Nat)) = .ok r := by
  have atKey : (runs.map Prod.fst)[i]? = some r.1 := by rw [List.getElem?_map, atRun, Option.map_some]
  have atLength : (runs.map Prod.snd)[i]? = some r.2 := by rw [List.getElem?_map, atRun, Option.map_some]
  have key := fetch_runKey valid atKey
  have length := sub_runStarts atLength
  rw [Fault.fetch_eq_ok (by simpa using getElem?_runStarts atRun), Fault.ok_bind] at key length ⊢
  rw [key, Fault.ok_bind, length]
  rfl

theorem fill_eq_ok (schedule : Schedule) (left : Leftovers) (g : Grid Float32) (spheres : List (Sphere Float32)) :
    schedule.fill left g spheres = .ok (g.allSlots spheres, (g.allSlots spheres).map (·.bucket)) := by
  by_cases none : spheres = []
  · subst none
    rfl
  · have some : spheres.isEmpty = false := by simpa using none
    have whole : spheres.length * slotsPerObject = (spheres.mapIdx fun i sphere => g.slots sphere i).flatten.length :=
      (Grid.length_flatten_slots g spheres).symm
    have written : (schedule.pieces .slots left.entry slotsPerObject (spheres.length * slotsPerObject)
        fun i slots => do g.writeSlots (← Fault.fetch spheres.toArray i) i slots) =
        .ok (spheres.mapIdx fun i sphere => g.slots sphere i).flatten := by
      refine pieces_eq_ok (by decide) whole fun i piece part atPiece atPart => ?_
      rw [pieces_slots] at atPart
      refine Index.writeSlots_fetched atPart ?_
      exact Metered.length_of_mem_pieces (by decide) (by rw [List.length_map, List.length_range])
        (List.mem_of_getElem? atPiece)
    have filed : (schedule.elements .keys left.word (g.allSlots spheres).length fun i =>
        (Fault.fetch (g.allSlots spheres).toArray i).map (·.bucket)) = .ok ((g.allSlots spheres).map (·.bucket)) :=
      elements_eq_ok (List.length_map _).symm fun _ _ => Index.fetch_bucket
    rw [Grid.allSlots_of_some none] at filed ⊢
    simp only [fill, some, Bool.false_eq_true, if_false, written, filed, Fault.ok_bind]
    rfl

theorem sort_eq_ok (schedule : Schedule) (left : Leftovers) {slots : List Entry} (few : slots.length ≤ limit32) :
    schedule.sort left (slots.map (·.bucket)) slots =
      .ok ((radixSort Entry.bucket slots).map (·.bucket), radixSort Entry.bucket slots) := by
  by_cases short : slots.length < 2
  · simp only [sort, List.length_map, short, if_true, radixSort_of_short short]
    rfl
  · have packed : (schedule.elements .words left.word slots.length fun i =>
        (Fault.fetch (slots.map (·.bucket)).toArray i).map fun key => key * limit32 + i) =
        .ok (slots.zipIdx.map (packed Entry.bucket)) :=
      elements_eq_ok (by simp) fun _ _ => fetch_packed
    have keys : (schedule.elements .sortedKeys left.word slots.length fun i =>
        (Fault.fetch (radixSort id (slots.zipIdx.map (ContactGrid.packed Entry.bucket))).toArray i).map (· / limit32)) =
        .ok ((radixSort Entry.bucket slots).map (·.bucket)) :=
      elements_eq_ok (by rw [List.length_map, length_radixSort]) fun _ _ => fetch_sortedKey few
    have entries : (schedule.elements .sortedEntries left.entry slots.length fun i => do
        Fault.fetch slots.toArray
          ((← Fault.fetch (radixSort id (slots.zipIdx.map (ContactGrid.packed Entry.bucket))).toArray i) % limit32)) =
        .ok (radixSort Entry.bucket slots) := by
      refine elements_eq_ok (length_radixSort _ _).symm fun i e atEntry => ?_
      have atValue : ((radixSort Entry.bucket slots).map id)[i]? = some e := by rwa [List.map_id]
      have fetched := fetch_sortedValue few atValue
      rwa [List.map_id] at fetched
    simp only [sort, List.length_map, short, if_false, packed, keys, entries, Fault.ok_bind]
    rfl

theorem sums_eq_ok (schedule : Schedule) (left : Leftovers) (tiles outputs : Site) {limit : Nat} {input : List Nat}
    (fits : input.sum < limit) : schedule.sums left tiles outputs limit input = .ok (sumsBefore 0 input) := by
  have totals : (schedule.elements tiles left.word (Metered.pieces tileSize input).length fun i => do
      checkedSum limit (← Fault.fetch (Metered.pieces tileSize input).toArray i)) =
      .ok ((Metered.pieces tileSize input).map List.sum) := by
    refine elements_eq_ok (List.length_map _).symm fun i total atTotal => ?_
    rw [List.getElem?_map] at atTotal
    obtain ⟨tile, atTile, rfl⟩ := Option.map_eq_some_iff.1 atTotal
    rw [Fault.fetch_eq_ok (by simpa using atTile)]
    exact checkedSum_tile fits (List.mem_of_getElem? atTile)
  have outputs : (schedule.pieces outputs left.word tileSize input.length fun i _ => do
      runningSums limit
        (← Fault.fetch (sumsBefore 0 ((Metered.pieces tileSize input).map List.sum)).toArray i)
        (← Fault.fetch (Metered.pieces tileSize input).toArray i)) = .ok (sumsBefore 0 input) := by
    refine pieces_eq_ok (by decide) (length_sumsBefore 0 input).symm fun i _ last _ atLast => ?_
    rw [pieces_sumsBefore, List.getElem?_map] at atLast
    obtain ⟨⟨base, tile⟩, atBoth, rfl⟩ := Option.map_eq_some_iff.1 atLast
    obtain ⟨atBase, atTile⟩ := List.getElem?_zip_eq_some.1 atBoth
    rw [Fault.fetch_eq_ok (by simpa using atBase), Fault.ok_bind, Fault.fetch_eq_ok (by simpa using atTile)]
    exact runningSums_tile fits (List.mem_of_getElem? atBoth)
  simp only [sums, List.size_toArray, totals, runningSums_tiles fits, outputs, Fault.ok_bind]

theorem group_eq_ok (schedule : Schedule) (left : Leftovers) {slots : List Entry} (few : slots.length < limit32) :
    schedule.group left ((radixSort Entry.bucket slots).map (·.bucket)) =
      .ok (groupKeys Entry.bucket slots, (keyGroups Entry.bucket slots).map List.length,
        sumsBefore 0 ((keyGroups Entry.bucket slots).map List.length)) := by
  have valid := groupRuns_valid Entry.bucket slots
  have found : (schedule.elements .runs left.run (groupRuns Entry.bucket slots).length fun r => do
      let head ← Fault.fetch (sumsBefore 0 ((groupRuns Entry.bucket slots).map Prod.snd)).toArray r
      return (← Fault.fetch (expand (groupRuns Entry.bucket slots)).toArray head,
        ← Fault.sub ((sumsBefore 0 ((groupRuns Entry.bucket slots).map Prod.snd)).toArray.getD (r + 1)
          (expand (groupRuns Entry.bucket slots)).length) head)) = .ok (groupRuns Entry.bucket slots) :=
    elements_eq_ok rfl fun _ _ => fetch_run valid
  have fits : ((groupRuns Entry.bucket slots).map Prod.snd).sum < limit32 := by
    rw [← length_expand, expand_groupRuns, List.length_map, length_radixSort]
    exact few
  rw [← expand_groupRuns, ← groupRuns_fst, ← groupRuns_snd]
  simp only [group, runHeads_expand valid, List.size_toArray, length_sumsBefore, List.length_map, found,
    sums_eq_ok _ _ _ _ fits, Fault.ok_bind]
  rfl

theorem splitLengths_pairList (g : Grid Float32) (spheres : List (Sphere Float32)) :
    (g.pairCounts spheres).splitLengths (g.pairList spheres) =
      (g.usedBuckets spheres).map fun k => bucketPairs spheres (g.slotsOf spheres k) := by
  have whole := Grid.length_pairList g spheres
  refine List.eq_iff_flatten_eq.2 ⟨?_, ?_⟩
  · rw [List.flatten_splitLengths _ _ (Nat.le_of_eq whole), Grid.pairList, List.flatMap_def]
  · rw [List.map_splitLengths_length _ _ (Nat.le_of_eq whole.symm), List.map_map]
    rfl

/-- Each bucket has a part of the list for itself, just as long as it
needs. -/
theorem launch_emit (schedule : Schedule) (left : Site → Nat → Pair) {x : Index} (built : x.Built g spheres) :
    schedule.launch site left (g.pairList spheres).length
      ⟨(g.pairCounts spheres).splitLengths (List.range (g.pairList spheres).length), x.buckets.emit⟩ =
      .ok (g.pairList spheres) := by
  have perm := schedule.perm site (g.pairCounts spheres).length
  have whole : ((List.range (g.pairList spheres).length).map (left site)).length = (g.pairCounts spheres).sum := by
    rw [List.length_map, List.length_range, Grid.length_pairList]
  have count := List.length_splitLengths (List.range (g.pairList spheres).length) (g.pairCounts spheres)
  rw [launch, count]
  refine Tasks.run_splitLengths whole (by rw [List.length_map, List.length_range]) (fun b room pairs atRoom atPairs => ?_)
    perm
  rw [splitLengths_pairList] at atPairs
  refine built.emit_eq_ok atPairs ?_
  rw [← List.map_splitLengths_length _ _ (Nat.le_of_eq whole.symm), List.getElem?_map, atRoom]
  rfl

theorem list_eq_ok (schedule : Schedule) (left : Leftovers) {x : Index} (built : x.Built g spheres) :
    schedule.list left x.buckets x.validBuckets =
      .ok (Index.countedPairs g spheres, sumsBefore 0 (Index.countedPairs g spheres), g.pairList spheres) := by
  rw [built.validBuckets]
  by_cases none : spheres = []
  · subst none
    rfl
  · have used : (g.usedBuckets spheres).length ≠ 0 := fun zero =>
      none (Grid.usedBuckets_eq_nil.1 (List.length_eq_zero_iff.1 zero))
    have some : spheres.isEmpty = false := by simpa using none
    have counts : (g.usedBuckets spheres).length = (g.pairCounts spheres).length := (List.length_map _).symm
    have counted : schedule.elements .pairSizes left.word (g.pairCounts spheres).length x.buckets.count =
        .ok (g.pairCounts spheres) :=
      elements_eq_ok rfl fun _ _ => built.count_eq_ok
    have fits : (g.pairCounts spheres ++ [0]).sum < limit64 := by
      rw [List.sum_append]
      exact Index.sum_pairCounts_lt built.few
    have total : Fault.fetch (sumsBefore 0 (g.pairCounts spheres ++ [0])).toArray (g.pairCounts spheres).length =
        .ok (g.pairList spheres).length := by
      refine Fault.fetch_eq_ok ?_
      rw [List.getElem?_toArray, Index.sumsBefore_pairCounts, ← length_sumsBefore 0 (g.pairCounts spheres),
        List.getElem?_concat_length]
    have cut : Index.cutParts ((g.pairCounts spheres).zip (sumsBefore 0 (g.pairCounts spheres ++ [0])))
        (List.range (g.pairList spheres).length) =
        .ok ((g.pairCounts spheres).splitLengths (List.range (g.pairList spheres).length)) := by
      rw [Index.sumsBefore_pairCounts]
      exact Index.cutParts_eq_ok (by rw [List.length_range, Grid.length_pairList]) _
    rw [list, if_neg used, Index.countedPairs, some, counts]
    simp only [counted, Fault.ok_bind, sums_eq_ok _ _ _ _ fits, total, cut, launch_emit schedule left.pair built]
    rfl

end Schedule

theorem Call.contents_of_listPairs {memory : Memory} {s t : Session} {reply : Reply} {g : Grid Float32}
    {spheres : List (Sphere Float32)} (built : s.index.Built g spheres)
    (ok : Call.listPairs.perform memory s = (.ok reply, t)) :
    t.index.pairSizes.contents = Index.countedPairs g spheres ∧
      t.index.pairOffsets.contents = sumsBefore 0 (Index.countedPairs g spheres) ∧
      t.pairs.contents = g.pairList spheres := by
  have leads : Leads (Call.listPairs.run memory) s
      (fun _ t => t.index.pairSizes.contents = Index.countedPairs g spheres ∧
        t.index.pairOffsets.contents = sumsBefore 0 (Index.countedPairs g spheres) ∧
        t.pairs.contents = g.pairList spheres) fun _ _ => True := by
    rw [Call.run, Leads.bind_iff]
    exact Index.leads_listing built (fun _ _ _ _ _ sizes offsets pairs => ⟨sizes, offsets, pairs⟩)
      fun _ _ _ _ _ _ _ _ => trivial
  obtain rfl : (Call.listPairs.perform memory s).2 = t := congrArg Prod.snd ok
  exact leads.of_ok (congrArg Prod.fst ok)

/-- Last task first. -/
def Schedule.backwards : Schedule where
  order _ count := (List.range count).reverse
  perm _ _ := List.reverse_perm _

/-- Buffers that hold nothing of use. -/
def Leftovers.stale : Leftovers where
  entry _ _ := Entry.sentinel
  word _ place := place
  run _ place := (place, place)
  pair _ place := ⟨place, place⟩

/-- Whatever calls an index has been through, its slots and keys, sorted or
not, its buckets and their offsets, and the numbers, offsets and list of its
pairs are those that the launches of each stage come to with their tasks in
any order and with any leftovers in their buffers. A launch is given only
what was complete before it, and it refuses to start unless the places of
its tasks are apart and make up the buffer. -/
theorem Index.Reached.any_schedule {s : Session} {last : Option (Grid Float32)} (reached : s.index.Reached last)
    (schedule : Schedule) (left : Leftovers) :
    (Stage.filled.rank ≤ s.index.stage.rank → ∃ g, last = some g ∧
      schedule.fill left g s.index.spheres.contents = .ok (s.index.entries.contents, s.index.keys.contents)) ∧
    (Stage.sorted.rank ≤ s.index.stage.rank →
      schedule.sort left s.index.keys.contents s.index.entries.contents =
        .ok (s.index.sortedKeys.contents, s.index.sortedEntries.contents)) ∧
    (Stage.grouped.rank ≤ s.index.stage.rank →
      schedule.group left s.index.sortedKeys.contents =
        .ok (s.index.bucketKeys.contents, s.index.bucketSizes.contents, s.index.bucketOffsets.contents)) ∧
    ∀ memory reply t, Call.listPairs.perform memory s = (.ok reply, t) →
      schedule.list left s.index.buckets s.index.validBuckets =
        .ok (t.index.pairSizes.contents, t.index.pairOffsets.contents, t.pairs.contents) := by
  have kept := reached.kept
  refine ⟨fun ready => ?_, fun ready => ?_, fun ready => ?_, fun memory reply t ok => ?_⟩
  · obtain ⟨g, same, recorded⟩ := kept.recorded ready
    exact ⟨g, same, by rw [schedule.fill_eq_ok, recorded.entries, recorded.keys]⟩
  · obtain ⟨g, _, sorted⟩ := kept.sorted ready
    rw [sorted.keys, sorted.entries, sorted.sortedKeys, sorted.sortedEntries]
    exact schedule.sort_eq_ok left (Nat.le_of_lt (Index.length_allSlots_lt sorted.few))
  · obtain ⟨g, _, grouped⟩ := kept.grouped ready
    rw [grouped.sortedKeys, grouped.bucketKeys, grouped.bucketSizes, grouped.bucketOffsets]
    exact schedule.group_eq_ok left (Index.length_allSlots_lt grouped.few)
  · have stage : s.index.stage = .grouped := Call.stage_of_listPairs fun _ _ wrong => by
      rw [ok] at wrong
      cases wrong
    obtain ⟨g, _, built⟩ := kept.built stage
    obtain ⟨sizes, offsets, pairs⟩ := Call.contents_of_listPairs built ok
    rw [sizes, offsets, pairs]
    exact schedule.list_eq_ok left built

/-- The pairs of the row come out the same with all tasks in reverse order,
on buffers that are not blank. -/
theorem Session.row_backwards :
    (∃ last, Session.row.index.Reached last) ∧ Session.row.index.stage = .grouped ∧
      (∃ g, Schedule.backwards.fill .stale g Session.row.index.spheres.contents =
        .ok (Session.row.index.entries.contents, Session.row.index.keys.contents)) ∧
      Schedule.backwards.sort .stale Session.row.index.keys.contents Session.row.index.entries.contents =
        .ok (Session.row.index.sortedKeys.contents, Session.row.index.sortedEntries.contents) ∧
      Schedule.backwards.group .stale Session.row.index.sortedKeys.contents =
        .ok (Session.row.index.bucketKeys.contents, Session.row.index.bucketSizes.contents,
          Session.row.index.bucketOffsets.contents) ∧
      ∃ sizes offsets, Schedule.backwards.list .stale Session.row.index.buckets Session.row.index.validBuckets =
        .ok (sizes, offsets, [⟨0, 2⟩, ⟨1, 2⟩]) := by
  obtain ⟨stage, good, pairs⟩ := Session.row_lists
  obtain ⟨reply, both⟩ := exists_eq_of_isOk good
  obtain ⟨last, reached⟩ := Session.row_reached
  obtain ⟨filled, sorted, grouped, listed⟩ := reached.any_schedule .backwards .stale
  rw [stage] at filled sorted grouped
  obtain ⟨g, _, filled⟩ := filled (by decide)
  have listed := listed .machine reply _ both
  rw [pairs] at listed
  have sorted := sorted (by decide)
  have grouped := grouped (by decide)
  refine ⟨⟨last, reached⟩, stage, ⟨g, filled⟩, sorted, grouped, ?_⟩
  exact ⟨_, _, listed⟩

end ContactGrid
