import ContactGrid.Proofs.Settings
import Mathlib.Data.List.Sort

namespace ContactGrid

/-- A search finds the sorted list of pairs, or it reports the first
complaint about its input or a refusal of the memory. What the session held
before has no part in it. -/
theorem leads_collectContacts {memory : Memory} {config : Config} {source : Source} {s : Session}
    {done : Contacts → Session → Prop} {failed : Failure → Session → Prop}
    (found : config.refusal source.toList = none → ∀ t, done
      ⟨Pair.sort ((config.grid source.toList).pairList source.toList),
        (config.grid source.toList).summary source.toList
          ((config.grid source.toList).pairList source.toList).length⟩ t)
    (refused : ∀ e, (memory.Denies e ∨ ∃ r, config.refusal source.toList = some r ∧ e = .refused r) →
      ∀ t, failed e t) :
    Leads (collectContacts memory config source) s done failed := by
  unfold collectContacts
  rw [Leads.bind_iff, leads_plan]
  rw [← config.buildRefusal_on s.index] at found refused
  refine Index.leads_build (fun accepted t built _ => ?_) fun e reason t _ => refused e reason t
  rw [Leads.bind_iff]
  refine Index.leads_listPairs (config.built_on built) (fun u listed count contents => ?_) fun e denied t =>
    refused e (Or.inl denied) t
  simp only [Leads.bind_iff, Leads.get_iff]
  rw [listed.summary_eq_ok, count, contents]
  exact found accepted _

theorem findContacts_cases (memory : Memory) (finest : Option Level) (config : Config) (source : Source) :
    (config.refusal source.toList = none ∧ (findContacts memory finest config source).1 =
        .ok ⟨Pair.sort ((config.grid source.toList).pairList source.toList),
          (config.grid source.toList).summary source.toList
            ((config.grid source.toList).pairList source.toList).length⟩) ∨
      ∃ e, (memory.Denies e ∨ ∃ r, config.refusal source.toList = some r ∧ e = .refused r) ∧
        (findContacts memory finest config source).1 = .error e := by
  have leads : Leads (collectContacts memory config source) { journal := { finest } }
      (fun contacts _ => config.refusal source.toList = none ∧ contacts =
        ⟨Pair.sort ((config.grid source.toList).pairList source.toList),
          (config.grid source.toList).summary source.toList
            ((config.grid source.toList).pairList source.toList).length⟩)
      (fun e _ => memory.Denies e ∨ ∃ r, config.refusal source.toList = some r ∧ e = .refused r) :=
    leads_collectContacts (fun accepted _ => ⟨accepted, rfl⟩) fun e reason _ => reason
  cases outcome : (findContacts memory finest config source).1 with
  | ok contacts =>
    obtain ⟨accepted, rfl⟩ := leads.of_ok outcome
    exact Or.inl ⟨accepted, rfl⟩
  | error e => exact Or.inr ⟨e, leads.of_error outcome, rfl⟩

theorem Pair.pairwise_sort_of_nodup {pairs : List Pair} (once : pairs.Nodup) :
    (sort pairs).Pairwise fun p q => p.a < q.a ∨ p.a = q.a ∧ p.b < q.b := by
  have distinct : (sort pairs).Nodup := (sort_perm pairs).nodup_iff.2 once
  exact ((pairwise_sort pairs).and distinct).imp fun both => Before.of_ne both.1 both.2

instance : Std.Antisymm fun p q : Pair => p.a < q.a ∨ p.a = q.a ∧ p.b < q.b where
  antisymm p q pq qp := by omega

instance : Std.Irrefl fun p q : Pair => p.a < q.a ∨ p.a = q.a ∧ p.b < q.b where
  irrefl p before := by omega

theorem Grid.sort_pairList_hash (g : Grid Float32) (hash : CellHash) (spheres : List (Sphere Float32)) :
    Pair.sort ((⟨g.cellSize, g.origin, hash⟩ : Grid Float32).pairList spheres) = Pair.sort (g.pairList spheres) := by
  refine (Pair.pairwise_sort_of_nodup (nodup_pairList _ _)).eq_of_mem_iff
    (Pair.pairwise_sort_of_nodup (nodup_pairList _ _)) fun p => ?_
  rw [(Pair.sort_perm _).mem_iff, (Pair.sort_perm _).mem_iff, mem_pairList, mem_pairList]
  exact Iff.rfl

theorem Config.grid_hash (c : Config) (hash : CellHash) (groups : GroupSizes) (spheres : List (Sphere Float32)) :
    ({ c with hash, groups } : Config).grid spheres = ⟨(c.grid spheres).cellSize, (c.grid spheres).origin, hash⟩ :=
  rfl

theorem Config.refusal_hash (c : Config) (hash : CellHash) (groups : GroupSizes) (spheres : List (Sphere Float32)) :
    ({ c with hash, groups } : Config).refusal spheres = c.refusal spheres := by
  simp only [refusal, grid_hash, Index.fillRefusal, Index.placedGrid, Grid.validate]
  by_cases none : spheres.length = 0
  · simp only [none, if_true]
  · simp only [none, if_false]

/-- A search that succeeds returns, in order and once each, the pairs of
overlapping spheres that share a recorded cell of the resolved grid, and
counts them. Neither the hash nor the sizes of groups nor what is written
down has an effect on the pairs: any other such choice finds the same ones,
unless its memory is refused. -/
theorem findContacts_exact {memory : Memory} {finest : Option Level} {config : Config} {source : Source}
    {contacts : Contacts} (ok : (findContacts memory finest config source).1 = .ok contacts) :
    (contacts.pairs.Pairwise fun p q => p.a < q.a ∨ p.a = q.a ∧ p.b < q.b) ∧
      (∀ i j, ⟨i, j⟩ ∈ contacts.pairs ↔ i < j ∧ ∃ s t, source.toList[i]? = some s ∧ source.toList[j]? = some t ∧
        s.overlaps t = true ∧ ∃ c, c ∈ (config.grid source.toList).recordedCells s ∧
          c ∈ (config.grid source.toList).recordedCells t) ∧
      contacts.summary.pairs = contacts.pairs.length ∧
      contacts.summary.cellSize = (config.grid source.toList).cellSize ∧
      ∀ hash groups memory' finest',
        (∃ other, (findContacts memory' finest' { config with hash, groups } source).1 = .ok other ∧
          other.pairs = contacts.pairs) ∨
        ∃ e, memory'.Denies e ∧ (findContacts memory' finest' { config with hash, groups } source).1 = .error e := by
  rcases findContacts_cases memory finest config source with ⟨accepted, found⟩ | ⟨e, _, lost⟩
  · obtain rfl := Except.ok.inj (found.symm.trans ok)
    dsimp only
    refine ⟨Pair.pairwise_sort_of_nodup (Grid.nodup_pairList _ _), fun i j => ?_, ?_, rfl, ?_⟩
    · rw [(Pair.sort_perm _).mem_iff, Grid.mem_pairList]
      constructor
      · rintro ⟨s, t, atI, atJ, before, overlap, meet⟩
        exact ⟨before, s, t, atI, atJ, overlap, meet⟩
      · rintro ⟨before, s, t, atI, atJ, overlap, meet⟩
        exact ⟨s, t, atI, atJ, before, overlap, meet⟩
    · exact (Pair.sort_perm _).length_eq.symm
    · intro hash groups memory' finest'
      have other := findContacts_cases memory' finest' { config with hash, groups } source
      rw [Config.grid_hash, Config.refusal_hash, accepted] at other
      rcases other with ⟨_, found'⟩ | ⟨e, denied | ⟨r, refused, _⟩, lost'⟩
      · rw [Grid.sort_pairList_hash (config.grid source.toList) hash source.toList] at found'
        refine Or.inl ⟨_, found', ?_⟩
        dsimp only
      · exact Or.inr ⟨e, denied, lost'⟩
      · cases refused
  · cases lost.symm.trans ok

/-- In unit cells, the first sphere of the row is found to touch the last
one, which lies beside it, and not the one at the far end. -/
theorem findContacts_row : ∃ contacts,
    (findContacts .machine none { cellSize := some 1 } .row).1 = .ok contacts ∧
      ⟨0, 2⟩ ∈ contacts.pairs ∧ ⟨0, 1⟩ ∉ contacts.pairs := by
  have good : (findContacts .machine none { cellSize := some 1 } .row).1.isOk = true := by decide +kernel
  obtain ⟨contacts, ok⟩ := exists_of_isOk good
  obtain ⟨_, listed, _⟩ := findContacts_exact ok
  rw [Source.row, Source.toList_ofList] at listed
  refine ⟨contacts, ok, (listed 0 2).2 ⟨by decide, _, _, rfl, rfl, ?_, ?_⟩, fun wrong => ?_⟩
  · decide +kernel
  · exact ⟨⟨0, 0, 0⟩, by decide +kernel, by decide +kernel⟩
  · obtain ⟨_, s, t, atI, atJ, overlap, _⟩ := (listed 0 1).1 wrong
    obtain rfl := Option.some.inj atI
    obtain rfl := Option.some.inj atJ
    revert overlap
    decide +kernel

end ContactGrid
