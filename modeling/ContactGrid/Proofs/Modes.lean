import ContactGrid.Proofs.Histories
import ContactGrid.Proofs.Reuse

namespace ContactGrid

namespace Index

/-- Counting, writing and visiting find the same pairs in a bucket, whatever
the room to write to holds. -/
structure Buckets.Agree (s : Buckets) (b : Nat) (pairs : List Pair) : Prop where
  count : s.count b = .ok pairs.length
  emit : ∀ room, room.length = pairs.length → s.emit b room = .ok pairs
  visit : ∀ (σ : Type) (visit : σ → Pair → σ) state,
    (do enumerate s.spheres (fun state pair => return visit state pair) (← s.bucket b) state : Except Fault σ) =
      .ok (pairs.foldl visit state)

variable {x : Index} {g : Grid Float32} {spheres : List (Sphere Float32)}

theorem Built.agree (built : x.Built g spheres) {b k : Nat} (found : (g.usedBuckets spheres)[b]? = some k) :
    x.buckets.Agree b (bucketPairs spheres (g.slotsOf spheres k)) := by
  have counted : (g.pairCounts spheres)[b]? = some (bucketPairs spheres (g.slotsOf spheres k)).length := by
    rw [Grid.pairCounts, List.getElem?_map, found]
    rfl
  refine ⟨built.count_eq_ok counted, fun room same => built.emit_eq_ok ?_ (same ▸ counted), ?_⟩
  · rw [List.getElem?_map, found]
    rfl
  · exact fun σ visit state => built.visit_eq_ok found visit state

theorem sum_countedPairs (g : Grid Float32) (spheres : List (Sphere Float32)) :
    (countedPairs g spheres).sum = (g.pairList spheres).length := by
  rw [Grid.length_pairList, countedPairs]
  cases spheres with
  | nil => rfl
  | cons s rest => exact List.sum_append.trans (Nat.add_zero _)

end Index

/-- A session has listed the pairs of some spheres, and has the room that
this took. -/
structure Session.Paired (t : Session) (g : Grid Float32) (spheres : List (Sphere Float32)) : Prop where
  built : t.index.Built g spheres
  count : t.index.pairCount = (g.pairList spheres).length
  sizes : t.index.pairSizes.contents = Index.countedPairs g spheres
  offsets : t.index.pairOffsets.length = t.index.pairSizes.length
  pairs : t.pairs.contents = g.pairList spheres

variable {g : Grid Float32} {spheres : List (Sphere Float32)} {s t : Session}

theorem Session.Paired.roomy (paired : t.Paired g spheres) (some : spheres ≠ []) : ¬Index.ShortOfRoom t g spheres := by
  have sizes : t.index.bucketCount = t.index.pairSizes.length := by
    have blank : spheres.isEmpty = false := by simpa using some
    rw [← Tape.length_contents, paired.sizes, Index.countedPairs, blank, paired.built.buckets,
      Grid.keyGroups_allSlots some, Grid.pairCounts]
    simp
  have roomSizes := t.index.pairSizes.length_le
  have roomOffsets := t.index.pairOffsets.length_le
  have roomPairs := t.pairs.length_le
  have offsets := paired.offsets
  have pairs : t.pairs.length = (g.pairList spheres).length := by rw [← Tape.length_contents, paired.pairs]
  simp only [Index.ShortOfRoom, Tape.capacity]
  omega

namespace Call

variable {memory : Memory}

theorem leads_listPairs_paired (built : s.index.Built g spheres) :
    Leads (Call.listPairs.run memory) s (fun reply t => reply = .done ∧ t.Paired g spheres)
      fun _ _ => spheres ≠ [] ∧ Index.ShortOfRoom s g spheres := by
  rw [Call.run, Leads.bind_iff]
  refine Index.leads_listing built (fun pairSizes pairOffsets _ _ _ sizes offsets contents => ?_)
    fun _ _ some short _ _ _ _ => ⟨some, short⟩
  have lengths : pairOffsets.length = pairSizes.length := by
    rw [← Tape.length_contents, ← Tape.length_contents, offsets, sizes, length_sumsBefore]
  exact ⟨rfl, { built with }, rfl, sizes, lengths, contents⟩

theorem listPairs_again (paired : t.Paired g spheres) : (Call.listPairs.perform memory t).1 = .ok .done := by
  rcases (@leads_listPairs_paired _ _ _ memory paired.built).cases with ⟨_, outcome, rfl, _⟩ | ⟨_, _, some, short⟩
  · exact outcome
  · exact absurd short (paired.roomy some)

theorem run_visitPairs {σ : Type} (built : s.index.Built g spheres) (visit : σ → Pair → σ) (start : σ) :
    ((Index.visitPairs visit start).run.run s).1 = .ok ((g.pairList spheres).foldl visit start) := by
  have leads : Leads (Index.visitPairs visit start) s (fun state _ => state = (g.pairList spheres).foldl visit start)
      fun _ _ => False := (Index.leads_visitPairs built).2 rfl
  obtain ⟨_, _, run, rfl⟩ := leads.exists_ok
  exact congrArg Prod.fst run

end Call

/-- A list of pairs, once made, is as long as was counted, bucket by bucket,
and every place in it is written. It goes by the buckets of the owning
cells, then by the numbers of the objects. With the index as it was or as it
is now, the list comes out the same wherever it is written, and visits see
its pairs. -/
theorem Index.Reached.listing {s : Session} {last : Option (Grid Float32)} {memory : Memory} {reply : Reply}
    (reached : s.index.Reached last) (ok : (Call.listPairs.perform memory s).1 = .ok reply) :
    let t := (Call.listPairs.perform memory s).2
    ∃ (g : Grid Float32) (parts : List (List Pair)) (owner : Pair → Cell), last = some g ∧ parts.length = s.index.validBuckets ∧
      (∀ b pairs, parts[b]? = some pairs → s.index.buckets.Agree b pairs) ∧ t.pairs.contents = parts.flatten ∧
      t.pairs.length = t.index.pairSizes.contents.sum ∧ t.index.pairCount = t.pairs.length ∧
      (∀ p ∈ t.pairs.contents, p.a < p.b ∧ g.OwnsPair s.index.spheres.contents (owner p) p) ∧
      (t.pairs.contents.Pairwise fun p q => g.bucket (owner p) < g.bucket (owner q) ∨
        g.bucket (owner p) = g.bucket (owner q) ∧ (p.a < q.a ∨ p.a = q.a ∧ p.b < q.b)) ∧
      (∀ memory, (Call.listPairs.perform memory t).1 = .ok .done) ∧
      ∀ u : Session, u.index = s.index ∨ u.index = t.index →
        (∀ memory reply, (Call.listPairs.perform memory u).1 = .ok reply →
          (Call.listPairs.perform memory u).2.pairs.contents = t.pairs.contents) ∧
        ∀ (σ : Type) (visit : σ → Pair → σ) start,
          ((Index.visitPairs visit start).run.run u).1 = .ok (t.pairs.contents.foldl visit start) := by
  intro t
  have stage : s.index.stage = .grouped := Call.stage_of_listPairs fun _ _ wrong => by cases ok.symm.trans wrong
  obtain ⟨g, rfl, built⟩ := reached.kept.built stage
  have paired : t.Paired g s.index.spheres.contents := ((Call.leads_listPairs_paired built).of_ok ok).2
  have length : t.pairs.length = (g.pairList s.index.spheres.contents).length := by
    rw [← Tape.length_contents, paired.pairs]
  obtain ⟨owner, owns⟩ := g.exists_owners s.index.spheres.contents
  refine ⟨g, (g.usedBuckets s.index.spheres.contents).map fun k =>
    bucketPairs s.index.spheres.contents (g.slotsOf s.index.spheres.contents k), owner, rfl, ?_⟩
  rw [paired.pairs]
  refine ⟨?_, ?_, List.flatMap_def, ?_, ?_, ?_, Grid.pairwise_pairList owns, fun _ => Call.listPairs_again paired, ?_⟩
  · rw [List.length_map, built.validBuckets]
  · intro b pairs found
    rw [List.getElem?_map] at found
    obtain ⟨k, atK, rfl⟩ := Option.map_eq_some_iff.1 found
    exact built.agree atK
  · rw [paired.sizes, Index.sum_countedPairs, length]
  · rw [paired.count, length]
  · intro p listed
    obtain ⟨_, _, _, _, before, _⟩ := Grid.mem_pairList.1 listed
    exact ⟨before, owns p listed⟩
  · intro u same
    have rebuilt : u.index.Built g s.index.spheres.contents := by
      rcases same with same | same
      · rwa [same]
      · rw [same]
        exact paired.built
    exact ⟨fun memory reply again => ((Call.leads_listPairs_paired rebuilt).of_ok again).2.pairs,
      fun _ visit start => Call.run_visitPairs rebuilt visit start⟩

/-- In the row, the third sphere lies between the others and pairs with
both. -/
theorem Session.row_listing : ∃ reply, (Call.listPairs.perform .machine Session.row).1 = .ok reply ∧
    (∃ last, Session.row.index.Reached last) ∧
    (Call.listPairs.perform .machine Session.row).2.pairs.contents = [⟨0, 2⟩, ⟨1, 2⟩] ∧
    (Call.listPairs.perform .machine Session.row).2.index.pairCount = 2 ∧
    ((Index.visitPairs (fun seen pair => pair :: seen) []).run.run Session.row).1 = .ok [⟨1, 2⟩, ⟨0, 2⟩] := by
  obtain ⟨_, good, pairs⟩ := Session.row_lists
  obtain ⟨reply, ok⟩ := exists_of_isOk good
  obtain ⟨last, reached⟩ := Session.row_reached
  obtain ⟨_, _, _, _, _, _, _, _, count, _, _, _, others⟩ := reached.listing ok
  have visits := (others Session.row (Or.inl rfl)).2 _ (fun seen pair => pair :: seen) []
  rw [pairs] at visits
  rw [← Tape.length_contents, pairs] at count
  exact ⟨reply, ok, ⟨last, reached⟩, pairs, count, visits⟩

end ContactGrid
