import ContactGrid.Proofs.Stages

namespace ContactGrid

namespace Index

/-- An index that has been built from some spheres: its tapes hold the slots
that a grid gives to the spheres, unsorted, sorted and grouped. The grid has
the cell size of the index; another hash may have been set since. -/
structure Built (x : Index) (g : Grid Float32) (spheres : List (Sphere Float32)) : Prop where
  stage : x.stage = .grouped
  few : spheres.length ≤ maxObjects
  count : x.objectCount = spheres.length
  size : x.grid.cellSize = g.cellSize
  bound : x.spheres.contents = spheres
  entries : x.entries.contents = g.allSlots spheres
  sorted : x.sortedEntries.contents = radixSort Entry.bucket (g.allSlots spheres)
  keys : x.bucketKeys.contents = groupKeys Entry.bucket (g.allSlots spheres)
  sizes : x.bucketSizes.contents = (keyGroups Entry.bucket (g.allSlots spheres)).map List.length
  offsets : x.bucketOffsets.contents = sumsBefore 0 ((keyGroups Entry.bucket (g.allSlots spheres)).map List.length)
  buckets : x.bucketCount = (keyGroups Entry.bucket (g.allSlots spheres)).length

def sizedGrid (x : Index) (spheres : List (Sphere Float32)) : Grid Float32 :=
  { x.grid with cellSize := settledSize x.requestedSize (spheres.map (·.radius)) }

def runGrid (x : Index) (spheres : List (Sphere Float32)) : Grid Float32 :=
  placedGrid x.origin (x.sizedGrid spheres) spheres.length

/-- The first complaint of the stages about some spheres and the settings of
the index, if there is one. -/
def buildRefusal (x : Index) (spheres : List (Sphere Float32)) : Option Refusal :=
  (bindRefusal spheres).or ((sizeRefusal x.requestedSize (spheres.map (·.radius))).or
    (fillRefusal x.origin (x.sizedGrid spheres) spheres.length))

theorem length_le_of_bindRefusal {spheres : List (Sphere Float32)} (accepted : bindRefusal spheres = none) :
    spheres.length ≤ maxObjects := by
  unfold bindRefusal at accepted
  split at accepted
  · cases accepted
  · omega

theorem length_allSlots_lt {g : Grid Float32} {spheres : List (Sphere Float32)} (few : spheres.length ≤ maxObjects) :
    (g.allSlots spheres).length < limit32 := by
  have bound : maxObjects = 536870911 := by decide
  have limit : limit32 = 4294967296 := rfl
  by_cases none : spheres = []
  · subst none
    exact Nat.two_pow_pos 32
  · rw [Grid.length_allSlots none, limit]
    omega

/-- The counters once some spheres are built. Every stage goes over
something, unless there are no spheres. -/
def buildMeter (s : Session) (spheres : List (Sphere Float32)) : Meter :=
  if spheres.isEmpty then s.meter
  else if Float32.lt 0 s.index.requestedSize && !s.journal.lets .warn then s.meter.plus 11 0 1
  else s.meter.plus 12 0 2

/-- What the stages count one after another, in a session that has noted
something on the way. -/
theorem buildMeter_eq (s : Session) (g : Grid Float32) {spheres : List (Sphere Float32)} {count : Nat}
    (length : spheres.length = count) (x : Index) (event : Event) :
    let bound := (s.meter.launchedOver .light count).launchedOver .light count
    let sized := sizeMeter { s with index := x, meter := bound, journal := s.journal.note event } s.index.requestedSize
      (spheres.map (·.radius))
    let filled := (sized.launchedOver .light spheres.length).launchedOver .light (g.allSlots spheres).length
    let sorted := if (g.allSlots spheres).length < 2 then filled
      else (((filled.launched .light).launched .light).launched .light).launched .light
    (if spheres.isEmpty then sorted else ((sorted.launched .light).launched .light).waited.launched .light) =
      buildMeter s spheres := by
  subst length
  have lets : (s.journal.note event).lets .warn = s.journal.lets .warn := by
    unfold Journal.note
    split <;> rfl
  cases spheres with
  | nil => rfl
  | cons sphere spheres =>
    have slots : (g.allSlots (sphere :: spheres)).length = (spheres.length + 1) * 8 + 1 :=
      Grid.length_allSlots (List.cons_ne_nil _ _)
    have several : ¬(spheres.length + 1) * 8 + 1 < 2 := by omega
    simp only [buildMeter, sizeMeter, slots, lets, List.map_cons, List.isEmpty_cons, List.length_cons, several,
      Meter.launchedOver, Nat.succ_ne_zero, Bool.false_eq_true, if_false]
    split <;> rfl

/-- All stages together take over the spheres, or they stop at the first
complaint, short of the last stage. What they count depends on no more than
whether there are spheres and whether the largest radius is asked for. -/
theorem leads_build_counted {memory : Memory} {source : Source} {s : Session} {done : Unit → Session → Prop}
    {failed : Failure → Session → Prop}
    (built : buildRefusal s.index source.toList = none → ∀ t : Session,
      t.index.Built (s.index.runGrid source.toList) source.toList → t.index.grid = s.index.runGrid source.toList →
      t.meter = buildMeter s source.toList → done () t)
    (refused : ∀ e, (memory.Denies e ∨ ∃ r, buildRefusal s.index source.toList = some r ∧ e = .refused r) →
      ∀ t : Session, t.index.stage ≠ .grouped → failed e t) :
    Leads (build memory source) s done failed := by
  unfold build
  simp only [Leads.bind_iff]
  unfold buildRefusal at built refused
  refine leads_bind (fun bound spheres radii uploaded measured => ?_)
    fun e reason _ _ _ => refused e ?_ _ (by rintro ⟨⟩)
  · rw [bound, Option.none_or] at built refused
    have few := length_le_of_bindRefusal bound
    have few' : ((s.index.runGrid source.toList).allSlots source.toList).length < limit32 := length_allSlots_lt few
    refine leads_sizeCells (Nat.le_refl _) measured (List.length_map _) (fun sized journal => ?_)
      fun r unsized _ => refused _ (Or.inr ⟨r, ?_, rfl⟩) _ (by rintro ⟨⟩)
    · have sized : sizeRefusal s.index.requestedSize (source.toList.map (·.radius)) = none := sized
      rw [sized, Option.none_or] at built refused
      refine leads_fill (g := s.index.runGrid source.toList) (Nat.le_refl _) uploaded rfl rfl
        (fun filled entries keys recorded filed _ journal => ?_)
        fun e reason _ _ _ _ _ => refused e reason _ (by rintro ⟨⟩)
      refine leads_sort (Nat.le_refl _) recorded filed (Nat.le_of_lt few')
        (fun sortRoom sortedKeys sortedEntries keysSorted sorted => ?_)
        fun e denied _ _ _ => refused e (Or.inl denied) _ (by rintro ⟨⟩)
      refine leads_group (Nat.le_refl _) few' keysSorted
        (fun bucketKeys bucketSizes bucketOffsets heads bases keys sizes offsets journal => ?_)
        fun e denied _ _ _ _ _ => refused e (Or.inl denied) _ (by rintro ⟨⟩)
      have counted := buildMeter_eq s (s.index.runGrid source.toList) source.length_toList
        { unbind s.index with spheres, radii, objectCount := source.toList.length, stage := .bound }
        (.bound source.count)
      exact built filled _ ⟨rfl, few, rfl, rfl, uploaded, recorded, sorted, keys, sizes, offsets, rfl⟩ rfl counted
    · have unsized : sizeRefusal s.index.requestedSize (source.toList.map (·.radius)) = some r := unsized
      rw [unsized]
      rfl
  · rcases reason with denied | ⟨r, unbound, rfl⟩
    · exact Or.inl denied
    · exact Or.inr ⟨r, by rw [unbound]; rfl, rfl⟩

/-- The same, whatever is counted. -/
theorem leads_build {memory : Memory} {source : Source} {s : Session} {done : Unit → Session → Prop}
    {failed : Failure → Session → Prop}
    (built : buildRefusal s.index source.toList = none → ∀ t : Session,
      t.index.Built (s.index.runGrid source.toList) source.toList → t.index.grid = s.index.runGrid source.toList →
      done () t)
    (refused : ∀ e, (memory.Denies e ∨ ∃ r, buildRefusal s.index source.toList = some r ∧ e = .refused r) →
      ∀ t : Session, t.index.stage ≠ .grouped → failed e t) :
    Leads (build memory source) s done failed :=
  leads_build_counted (fun accepted t made same _ => built accepted t made same) refused

end Index

end ContactGrid
