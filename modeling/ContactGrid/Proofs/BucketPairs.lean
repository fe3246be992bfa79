import ContactGrid.Proofs.Slots

namespace ContactGrid

/-- Whether the common cell of two records owns their pair, and the spheres
overlap. -/
def Entry.pairsWith (spheres : List (Sphere Float32)) (e f : Entry) : Bool :=
  decide (e.cell = f.cell) && !e.ownedElsewhere f &&
    spheres[e.object]?.any fun s => spheres[f.object]?.any s.overlaps

/-- The pairs that the cells of a bucket own, in the order of its records. -/
def bucketPairs (spheres : List (Sphere Float32)) : List Entry → List Pair
  | [] => []
  | e :: rest => ((rest.filter (e.pairsWith spheres)).map fun f => ⟨e.object, f.object⟩) ++ bucketPairs spheres rest

/-- All pairs, bucket by bucket. -/
def Grid.pairList (g : Grid Float32) (spheres : List (Sphere Float32)) : List Pair :=
  (g.usedBuckets spheres).flatMap fun k => bucketPairs spheres (g.slotsOf spheres k)

/-- The cell of lowest parity in which both spheres are recorded. -/
def Grid.Owner (g : Grid Float32) (s t : Sphere Float32) (c : Cell) : Prop :=
  (c ∈ g.recordedCells s ∧ c ∈ g.recordedCells t) ∧
    ¬∃ d, d ∈ g.recordedCells s ∧ d ∈ g.recordedCells t ∧ d.parity < c.parity

def Grid.Meet {α : Type} [Scalar α] (g : Grid α) (s t : Sphere α) : Prop :=
  ∃ c, c ∈ g.recordedCells s ∧ c ∈ g.recordedCells t

namespace Grid

variable {g : Grid Float32} {spheres : List (Sphere Float32)} {s t : Sphere Float32} {i j : Nat} {e f : Entry}

instance (g : Grid Float32) (s t : Sphere Float32) : Decidable (g.Meet s t) :=
  inferInstanceAs (Decidable (∃ c, c ∈ g.recordedCells s ∧ c ∈ g.recordedCells t))

theorem existsUnique_owner (meet : g.Meet s t) : ∃! c, g.Owner s t c :=
  Block.existsUnique_lowest (fun _ member => recordedCells_mem member) meet

theorem ownedElsewhere_entries (he : e ∈ g.entries s i) (hf : f ∈ g.entries t j) (same : e.cell = f.cell) :
    e.ownedElsewhere f = false ↔ g.Owner s t e.cell := by
  obtain ⟨c, hc, rfl⟩ := mem_entries.1 he
  obtain ⟨d, hd, rfl⟩ := mem_entries.1 hf
  have same : c = d := same
  subst same
  rw [← Bool.not_eq_true, Entry.ownedElsewhere_iff (fun _ member => recordedCells_mem member)
    (fun _ member => recordedCells_mem member) hc hd]
  exact ⟨fun lowest => ⟨⟨hc, hd⟩, lowest⟩, fun owner => owner.2⟩

theorem pairsWith_entries (atI : spheres[i]? = some s) (atJ : spheres[j]? = some t) (he : e ∈ g.entries s i)
    (hf : f ∈ g.entries t j) :
    e.pairsWith spheres f = true ↔ e.cell = f.cell ∧ g.Owner s t e.cell ∧ s.overlaps t = true := by
  have first := object_of_mem_entries he
  have second := object_of_mem_entries hf
  rw [Entry.pairsWith, first, second, atI, atJ, Option.any_some, Option.any_some]
  simp only [Bool.and_eq_true, decide_eq_true_eq, Bool.not_eq_true']
  constructor
  · rintro ⟨⟨same, lowest⟩, overlap⟩
    exact ⟨same, (ownedElsewhere_entries he hf same).1 lowest, overlap⟩
  · rintro ⟨same, owner, overlap⟩
    exact ⟨⟨same, (ownedElsewhere_entries he hf same).2 owner⟩, overlap⟩

end Grid

/-- Records of one bucket: they are records of the spheres, one for each
object at most, in the order of objects. -/
structure Listed (g : Grid Float32) (spheres : List (Sphere Float32)) (entries : List Entry) : Prop where
  recorded : ∀ e ∈ entries, ∃ s, spheres[e.object]? = some s ∧ e ∈ g.entries s e.object
  ordered : entries.Pairwise fun e f => e.object < f.object

variable {g : Grid Float32} {spheres : List (Sphere Float32)} {entries rest : List Entry} {e : Entry} {p : Pair}

theorem Listed.tail (listed : Listed g spheres (e :: rest)) : Listed g spheres rest where
  recorded f member := listed.recorded f (List.mem_cons_of_mem e member)
  ordered := (List.pairwise_cons.1 listed.ordered).2

theorem listed_slotsOf {k : Nat} (used : k ≠ Entry.sentinelBucket) :
    Listed g spheres (g.slotsOf spheres k) where
  recorded e member := by
    obtain ⟨inside, same⟩ := Grid.mem_slotsOf.1 member
    exact (Grid.mem_allSlots (same ▸ used)).1 inside
  ordered := by
    rw [Grid.slotsOf, List.pairwise_filter]
    refine (Grid.pairwise_allSlots g spheres).imp fun {e f} before first second => ?_
    rw [beq_iff_eq] at first second
    exact before (first ▸ used) (first.trans second.symm)

theorem mem_bucketPairs_cons :
    p ∈ bucketPairs spheres (e :: rest) ↔
      (∃ f ∈ rest, e.pairsWith spheres f = true ∧ ⟨e.object, f.object⟩ = p) ∨ p ∈ bucketPairs spheres rest := by
  simp only [bucketPairs, List.mem_append, List.mem_map, List.mem_filter, and_assoc]

theorem mem_bucketPairs (listed : Listed g spheres entries) :
    p ∈ bucketPairs spheres entries ↔
      ∃ e ∈ entries, ∃ f ∈ entries, e.object < f.object ∧ e.pairsWith spheres f = true ∧
        ⟨e.object, f.object⟩ = p := by
  induction entries with
  | nil => simp [bucketPairs]
  | cons e rest ih =>
    have later := (List.pairwise_cons.1 listed.ordered).1
    rw [mem_bucketPairs_cons, ih listed.tail]
    constructor
    · rintro (⟨f, member, pairs, rfl⟩ | ⟨a, inA, b, inB, before, pairs, rfl⟩)
      · exact ⟨e, List.mem_cons_self, f, List.mem_cons_of_mem e member, later f member, pairs, rfl⟩
      · exact ⟨a, List.mem_cons_of_mem e inA, b, List.mem_cons_of_mem e inB, before, pairs, rfl⟩
    · rintro ⟨a, inA, b, inB, before, pairs, rfl⟩
      rcases List.mem_cons.1 inB with rfl | inTail
      · rcases List.mem_cons.1 inA with rfl | inA
        · exact absurd before (Nat.lt_irrefl _)
        · exact absurd before (Nat.lt_asymm (later a inA))
      · rcases List.mem_cons.1 inA with rfl | inRest
        · exact Or.inl ⟨b, inTail, pairs, rfl⟩
        · exact Or.inr ⟨a, inRest, b, inTail, before, pairs, rfl⟩

theorem pairwise_bucketPairs (listed : Listed g spheres entries) :
    (bucketPairs spheres entries).Pairwise fun p q => p.a < q.a ∨ p.a = q.a ∧ p.b < q.b := by
  induction entries with
  | nil => exact .nil
  | cons e rest ih =>
    have later := List.pairwise_cons.1 listed.ordered
    rw [bucketPairs, List.pairwise_append, List.pairwise_map]
    refine ⟨(later.2.filter _).imp fun before => Or.inr ⟨rfl, before⟩, ih listed.tail, ?_⟩
    intro p first q second
    obtain ⟨f, _, rfl⟩ := List.mem_map.1 first
    obtain ⟨a, inA, b, _, _, _, rfl⟩ := (mem_bucketPairs listed.tail).1 second
    exact Or.inl (later.1 a inA)

theorem length_bucketPairs_le (spheres : List (Sphere Float32)) (entries : List Entry) :
    (bucketPairs spheres entries).length ≤ entries.length * entries.length := by
  induction entries with
  | nil => exact Nat.le_refl 0
  | cons e rest ih =>
    have few := List.length_filter_le (e.pairsWith spheres) rest
    rw [bucketPairs, List.length_append, List.length_map, List.length_cons, Nat.add_mul, Nat.mul_add]
    omega

namespace Grid

theorem mem_bucketPairs_slotsOf {k : Nat} (used : k ≠ Entry.sentinelBucket) :
    p ∈ bucketPairs spheres (g.slotsOf spheres k) ↔
      ∃ s t, spheres[p.a]? = some s ∧ spheres[p.b]? = some t ∧ p.a < p.b ∧ s.overlaps t = true ∧
        ∃ c, g.Owner s t c ∧ g.bucket c = k := by
  have listed : Listed g spheres (g.slotsOf spheres k) := listed_slotsOf used
  rw [mem_bucketPairs listed]
  constructor
  · rintro ⟨e, he, f, hf, before, pairs, rfl⟩
    obtain ⟨s, atI, inS⟩ := listed.recorded e he
    obtain ⟨t, atJ, inT⟩ := listed.recorded f hf
    obtain ⟨_, owner, overlap⟩ := (pairsWith_entries atI atJ inS inT).1 pairs
    have bucket := bucket_of_mem_entries inS
    rw [(mem_slotsOf.1 he).2] at bucket
    exact ⟨s, t, atI, atJ, before, overlap, e.cell, owner, bucket.symm⟩
  · rintro ⟨s, t, atI, atJ, before, overlap, c, owner, rfl⟩
    obtain ⟨e, inS, rfl⟩ := exists_entry owner.1.1 p.a
    obtain ⟨f, inT, same⟩ := exists_entry owner.1.2 p.b
    have pairs := (pairsWith_entries atI atJ inS inT).2 ⟨same.symm, owner, overlap⟩
    have first := object_of_mem_entries inS
    have second := object_of_mem_entries inT
    have inBucket : e.bucket = g.bucket e.cell := bucket_of_mem_entries inS
    have inSame : f.bucket = g.bucket e.cell := same ▸ bucket_of_mem_entries inT
    refine ⟨e, mem_slotsOf.2 ⟨?_, inBucket⟩, f, mem_slotsOf.2 ⟨?_, inSame⟩, by rwa [first, second], pairs,
      by rw [first, second]⟩
    · exact (mem_allSlots (inBucket ▸ used)).2 ⟨s, by rwa [first], by rwa [first]⟩
    · exact (mem_allSlots (inSame ▸ used)).2 ⟨t, by rwa [second], by rwa [second]⟩

/-- A pair is listed exactly if the spheres overlap and some cell records
both. -/
theorem mem_pairList :
    p ∈ g.pairList spheres ↔
      ∃ s t, spheres[p.a]? = some s ∧ spheres[p.b]? = some t ∧ p.a < p.b ∧ s.overlaps t = true ∧ g.Meet s t := by
  rw [pairList, List.mem_flatMap]
  constructor
  · rintro ⟨k, used, member⟩
    obtain ⟨s, t, atI, atJ, before, overlap, c, owner, _⟩ :=
      (mem_bucketPairs_slotsOf (mem_usedBuckets.1 used).1).1 member
    exact ⟨s, t, atI, atJ, before, overlap, c, owner.1⟩
  · rintro ⟨s, t, atI, atJ, before, overlap, meet⟩
    obtain ⟨c, owner, _⟩ := existsUnique_owner meet
    obtain ⟨e, recorded, rfl⟩ := exists_entry owner.1.1 p.a
    have used := not_sentinel_of_mem_entries recorded
    have present : e ∈ g.allSlots spheres := by
      rw [mem_allSlots used, object_of_mem_entries recorded]
      exact ⟨s, atI, recorded⟩
    exact ⟨e.bucket, mem_usedBuckets.2 ⟨used, e, present, rfl⟩,
      (mem_bucketPairs_slotsOf used).2 ⟨s, t, atI, atJ, before, overlap, e.cell, owner,
        (bucket_of_mem_entries recorded).symm⟩⟩

/-- No pair is listed twice, because only one cell owns it. -/
theorem nodup_pairList (g : Grid Float32) (spheres : List (Sphere Float32)) : (g.pairList spheres).Nodup := by
  rw [pairList, List.nodup_flatMap]
  constructor
  · intro k used
    refine (pairwise_bucketPairs (listed_slotsOf (mem_usedBuckets.1 used).1)).imp fun before same => ?_
    subst same
    omega
  · refine (nodup_usedBuckets g spheres).imp_of_mem fun {k l} usedK usedL differ => ?_
    intro p first second
    obtain ⟨s, t, atI, atJ, _, _, c, ownerC, rfl⟩ := (mem_bucketPairs_slotsOf (mem_usedBuckets.1 usedK).1).1 first
    obtain ⟨s', t', atI', atJ', _, _, d, ownerD, rfl⟩ :=
      (mem_bucketPairs_slotsOf (mem_usedBuckets.1 usedL).1).1 second
    obtain rfl := Option.some.inj (atI.symm.trans atI')
    obtain rfl := Option.some.inj (atJ.symm.trans atJ')
    exact differ (congrArg g.bucket ((existsUnique_owner ⟨c, ownerC.1⟩).unique ownerC ownerD))

/-- A cell owns the pair of two spheres of the list. -/
def OwnsPair (g : Grid Float32) (spheres : List (Sphere Float32)) (c : Cell) (p : Pair) : Prop :=
  ∃ s t, spheres[p.a]? = some s ∧ spheres[p.b]? = some t ∧ g.Owner s t c

theorem exists_owner (listed : p ∈ g.pairList spheres) : ∃ c, g.OwnsPair spheres c p := by
  obtain ⟨s, t, atA, atB, _, _, meet⟩ := mem_pairList.1 listed
  obtain ⟨c, owner, _⟩ := existsUnique_owner meet
  exact ⟨c, s, t, atA, atB, owner⟩

theorem exists_owners (g : Grid Float32) (spheres : List (Sphere Float32)) :
    ∃ owner : Pair → Cell, ∀ p ∈ g.pairList spheres, g.OwnsPair spheres (owner p) p := by
  have owned : ∀ p, ∃ c, p ∈ g.pairList spheres → g.OwnsPair spheres c p := by
    intro p
    by_cases listed : p ∈ g.pairList spheres
    · exact (exists_owner listed).imp fun _ owns _ => owns
    · exact ⟨⟨0, 0, 0⟩, fun wrong => absurd wrong listed⟩
  choose owner owns using owned
  exact ⟨owner, owns⟩

theorem bucket_of_owner {k : Nat} {c : Cell} (used : k ≠ Entry.sentinelBucket)
    (listed : p ∈ bucketPairs spheres (g.slotsOf spheres k)) (owns : g.OwnsPair spheres c p) : g.bucket c = k := by
  obtain ⟨s, t, atA, atB, _, _, d, owner, same⟩ := (mem_bucketPairs_slotsOf used).1 listed
  obtain ⟨s', t', atA', atB', owner'⟩ := owns
  obtain rfl := Option.some.inj (atA.symm.trans atA')
  obtain rfl := Option.some.inj (atB.symm.trans atB')
  rw [(existsUnique_owner ⟨d, owner.1⟩).unique owner' owner, same]

/-- The list goes by the buckets of the owning cells, then by the first
number, then by the second. -/
theorem pairwise_pairList {owner : Pair → Cell} (owns : ∀ p ∈ g.pairList spheres, g.OwnsPair spheres (owner p) p) :
    (g.pairList spheres).Pairwise fun p q => g.bucket (owner p) < g.bucket (owner q) ∨
      g.bucket (owner p) = g.bucket (owner q) ∧ (p.a < q.a ∨ p.a = q.a ∧ p.b < q.b) := by
  have bucketOf {k : Nat} {p : Pair} (used : k ∈ g.usedBuckets spheres)
      (member : p ∈ bucketPairs spheres (g.slotsOf spheres k)) : g.bucket (owner p) = k :=
    bucket_of_owner (mem_usedBuckets.1 used).1 member (owns p (List.mem_flatMap.2 ⟨k, used, member⟩))
  rw [pairList, List.pairwise_flatMap]
  constructor
  · intro k used
    refine (pairwise_bucketPairs (listed_slotsOf (mem_usedBuckets.1 used).1)).imp_of_mem fun inP inQ before => ?_
    exact Or.inr ⟨(bucketOf used inP).trans (bucketOf used inQ).symm, before⟩
  · have ordered := (pairwise_groupKeys Entry.bucket (g.allSlots spheres)).sublist (List.dropLast_sublist _)
    refine ordered.imp_of_mem fun usedK usedL before p inK q inL => Or.inl ?_
    rw [bucketOf usedK inK, bucketOf usedL inL]
    exact before

end Grid

end ContactGrid
