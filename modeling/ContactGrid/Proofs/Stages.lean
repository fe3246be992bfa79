import ContactGrid.Proofs.Enumerating

namespace ContactGrid

theorem Source.length_toList (source : Source) : source.toList.length = source.count := List.length_ofFn

theorem Source.toList_ofList (spheres : List (Sphere Float32)) : (Source.ofList spheres).toList = spheres := by
  refine List.ext_getElem (by rw [Source.length_toList]; rfl) fun i _ _ => ?_
  simp [Source.toList, Source.ofList, Source.ofArray]

/-- Three spheres in a row, of which neighbors touch. -/
def Source.row : Source :=
  .ofList [⟨⟨0.5, 0.5, 0.5⟩, 0.5⟩, ⟨⟨2.5, 0.5, 0.5⟩, 0.5⟩, ⟨⟨1.5, 0.5, 0.5⟩, 0.5⟩]

namespace Index

theorem leads_requireStage {needed : Stage} {operation : String} {s : Session} {done : Unit → Session → Prop}
    {failed : Failure → Session → Prop} :
    Leads (requireStage needed operation) s done failed ↔
      if s.index.stage.rank < needed.rank then failed (.refused (.outOfOrder needed.producer operation)) s
      else done () s := by
  unfold requireStage
  rw [Leads.bind_iff, Action.leads_index]
  split
  · exact Iff.rfl
  · exact Iff.rfl

theorem leads_requireStage_early {α : Type} {needed : Stage} {operation : String} {work : Unit → Action α} {s : Session}
    (early : s.index.stage.rank < needed.rank) {done : α → Session → Prop} {failed : Failure → Session → Prop}
    (refused : failed (.refused (.outOfOrder needed.producer operation)) s) :
    Leads (requireStage needed operation >>= work) s done failed := by
  rwa [Leads.bind_iff, leads_requireStage, if_pos early]

/-- What `bind` says of spheres that it does not take. -/
def bindRefusal (spheres : List (Sphere Float32)) : Option Refusal :=
  if maxObjects < spheres.length then some (.capacity (slotDemand spheres.length) "cell records")
  else
    (badRadius? (spheres.map (·.radius))).map fun i =>
      .setting (.unusableRadius i ((spheres.map (·.radius)).getD i default))

/-- How `bind` stops short of binding, with the spheres that it leaves
behind. It looks at radii only after it has taken over the spheres. -/
inductive BindStop (memory : Memory) (source : Source) (before : Tape (Sphere Float32)) :
    Failure → Tape (Sphere Float32) → Prop
  | many : maxObjects < source.count →
      BindStop memory source before (.refused (.capacity (slotDemand source.count) "cell records")) before
  | denied (e : Failure) (spheres : Tape (Sphere Float32)) : source.count ≤ maxObjects → memory.Denies e →
      BindStop memory source before e spheres
  | radius (i : Nat) (spheres : Tape (Sphere Float32)) : source.count ≤ maxObjects →
      badRadius? (source.toList.map (·.radius)) = some i → spheres.contents = source.toList →
      BindStop memory source before
        (.refused (.setting (.unusableRadius i ((source.toList.map (·.radius)).getD i default)))) spheres

theorem BindStop.reason {memory : Memory} {source : Source} {before spheres : Tape (Sphere Float32)} {e : Failure}
    (stop : BindStop memory source before e spheres) :
    memory.Denies e ∨ ∃ r, bindRefusal source.toList = some r ∧ e = .refused r := by
  have count := Source.length_toList source
  cases stop with
  | many many =>
    refine Or.inr ⟨_, ?_, rfl⟩
    rw [bindRefusal, if_pos (by rwa [count]), count]
  | denied _ _ _ denied => exact Or.inl denied
  | radius _ _ few bad _ =>
    refine Or.inr ⟨_, ?_, rfl⟩
    rw [bindRefusal, if_neg (by rw [count]; exact Nat.not_lt.2 few), bad]
    rfl

/-- After `bind` the spheres and their radii are those of the source. A
source that is not taken leaves nothing bound, but it may leave its
spheres. -/
theorem leads_bind_or_stop {memory : Memory} {source : Source} {s : Session} {done : Unit → Session → Prop}
    {failed : Failure → Session → Prop}
    (bound : bindRefusal source.toList = none → ∀ spheres radii, spheres.contents = source.toList →
      radii.contents = source.toList.map (·.radius) → done ()
        { s with
          index := { unbind s.index with spheres, radii, objectCount := source.toList.length, stage := .bound }
          meter := (s.meter.launchedOver .light source.count).launchedOver .light source.count
          journal := s.journal.note (.bound source.count) })
    (stopped : ∀ e spheres, BindStop memory source s.index.spheres e spheres → ∀ radii meter, failed e
      { s with index := { unbind s.index with spheres, radii }, meter }) :
    Leads (bind memory source) s done failed := by
  have count := Source.length_toList source
  unfold bind
  simp only [Leads.bind_iff, Action.leads_onIndex]
  by_cases many : maxObjects < source.count
  · rw [if_pos many, Leads.bind_iff, Action.leads_refuse]
    exact stopped _ _ (.many many) _ _
  · have few := Nat.not_lt.1 many
    rw [if_neg many]
    simp only [Leads.bind_iff, Action.leads_index]
    refine Action.leads_resize (fun spheres lengthS => ?_) fun e denied => stopped e _ (.denied e _ few denied) _ _
    simp only [Action.leads_onIndex]
    refine Action.leads_resize (fun radii lengthR => ?_) fun e denied => stopped e _ (.denied e _ few denied) _ _
    simp only [Action.leads_metered]
    rw [Metered.leads_eachElement source.toList (by simp [lengthS, count])]
    · have uploaded : (spheres.write source.toList).contents = source.toList :=
        Tape.contents_write (by rw [lengthS, count])
      simp only [uploaded]
      rw [Metered.leads_eachElement (source.toList.map (·.radius)) (by simp [lengthR, count])]
      · have measured : (radii.write (source.toList.map (·.radius))).contents = source.toList.map (·.radius) :=
          Tape.contents_write (by rw [List.length_map, lengthR, count])
        cases bad : badRadius? (source.toList.map (·.radius)) with
        | some i => exact stopped _ _ (.radius i _ few bad uploaded) _ _
        | none =>
          have accepted : bindRefusal source.toList = none := by
            rw [bindRefusal, if_neg (by rwa [count]), bad]
            rfl
          have last := bound accepted _ _ uploaded measured
          rw [count] at last
          rw [List.length_map, count]
          exact last
      · intro i x r _ atRadius
        rw [List.getElem?_map] at atRadius
        obtain ⟨sphere, atSphere, rfl⟩ := Option.map_eq_some_iff.1 atRadius
        rw [Fault.fetch_eq_ok (by simpa using atSphere)]
        rfl
    · intro i x sphere _ atSphere
      rw [Source.toList, List.getElem?_ofFn, Option.dite_none_right_eq_some] at atSphere
      obtain ⟨within, same⟩ := atSphere
      rw [dif_pos within, Option.some.inj same]

/-- The same, whatever spheres are left behind. -/
theorem leads_bind {memory : Memory} {source : Source} {s : Session} {done : Unit → Session → Prop}
    {failed : Failure → Session → Prop}
    (bound : bindRefusal source.toList = none → ∀ spheres radii, spheres.contents = source.toList →
      radii.contents = source.toList.map (·.radius) → done ()
        { s with
          index := { unbind s.index with spheres, radii, objectCount := source.toList.length, stage := .bound }
          meter := (s.meter.launchedOver .light source.count).launchedOver .light source.count
          journal := s.journal.note (.bound source.count) })
    (refused : ∀ e, (memory.Denies e ∨ ∃ r, bindRefusal source.toList = some r ∧ e = .refused r) →
      ∀ spheres radii meter, failed e { s with index := { unbind s.index with spheres, radii }, meter }) :
    Leads (bind memory source) s done failed :=
  leads_bind_or_stop bound fun e spheres stop => refused e stop.reason spheres

/-- The cell size of a run: the requested one if it is positive, else a
multiple of the largest radius. -/
def settledSize (requested : Float32) (radii : List Float32) : Float32 :=
  if radii.isEmpty then real32Larger 0 requested
  else if Float32.lt 0 requested then requested
  else maximum radii * cellSizeScale

/-- What `sizeCells` says of radii from which it gets no size. -/
def automaticRefusal (radii : List Float32) : Option Refusal :=
  if !((maximum radii * cellSizeScale).isFinite && Float32.lt 0 (maximum radii * cellSizeScale)) then
    some (.setting (.noCellSizeFrom (maximum radii)))
  else none

/-- What `sizeCells` says of a requested size and radii. -/
def sizeRefusal (requested : Float32) (radii : List Float32) : Option Refusal :=
  if !requested.isFinite then some (.setting (.unusableCellSize requested))
  else if radii.isEmpty then none
  else if Float32.lt 0 requested then none
  else automaticRefusal radii

/-- Only an automatic size and a warning need the largest radius. -/
def sizeMeter (s : Session) (requested : Float32) (radii : List Float32) : Meter :=
  if radii.isEmpty then s.meter
  else if Float32.lt 0 requested && !s.journal.lets .warn then s.meter
  else (s.meter.launched .light).waited

theorem leads_readMaximum {radii : List Float32} (some : radii.isEmpty = false) {m : Meter}
    {done : Float32 → Meter → Prop} {failed : Failure → Meter → Prop} :
    Leads (readMaximum radii) m done failed ↔ done (maximum radii) (m.launched .light).waited := by
  unfold readMaximum
  rw [some]
  exact Iff.rfl

theorem leads_chooseCellSize {s : Session} {requested : Float32} {radii : List Float32} (some : radii.isEmpty = false)
    {done : Unit → Session → Prop} {failed : Failure → Session → Prop}
    (sized : Float32.lt 0 requested = true ∨ automaticRefusal radii = none → ∀ journal, done ()
      { s with
        index := { s.index with grid := { s.index.grid with cellSize := settledSize requested radii } }
        meter := sizeMeter s requested radii
        journal })
    (refused : ∀ r, Float32.lt 0 requested = false → automaticRefusal radii = Option.some r →
      failed (.refused r) { s with meter := sizeMeter s requested radii }) :
    Leads (chooseCellSize requested radii) s done failed := by
  unfold sizeMeter settledSize at sized
  unfold sizeMeter at refused
  unfold chooseCellSize
  simp only [some, Bool.false_eq_true, if_false] at sized refused
  cases positive : Float32.lt 0 requested with
  | true =>
    have sized := sized (Or.inl positive)
    simp only [positive] at sized
    simp only [if_true, Leads.bind_iff, setCellSize, Action.leads_onIndex, Leads.get_iff]
    cases warns : s.journal.lets .warn with
    | false => simpa [warns] using sized s.journal
    | true =>
      simp only [if_true, Leads.bind_iff, Action.leads_metered, leads_readMaximum some]
      simp only [warns] at sized
      split
      · exact sized _
      · exact sized _
  | false =>
    simp only [positive] at sized refused
    simp only [Bool.false_eq_true, if_false, Leads.bind_iff, Action.leads_metered, leads_readMaximum some]
    by_cases usable : (maximum radii * cellSizeScale).isFinite && Float32.lt 0 (maximum radii * cellSizeScale)
    · rw [usable]
      exact sized (Or.inr (by rw [automaticRefusal, usable]; rfl)) _
    · rw [Bool.not_eq_true] at usable
      rw [usable]
      exact refused _ trivial (by rw [automaticRefusal, usable]; rfl)

/-- After `sizeCells` the grid has the cell size that was settled. -/
theorem leads_sizeCells {s : Session} {radii : List Float32} (ready : Stage.bound.rank ≤ s.index.stage.rank)
    (measured : s.index.radii.contents = radii) (count : radii.length = s.index.objectCount)
    {done : Unit → Session → Prop} {failed : Failure → Session → Prop}
    (sized : sizeRefusal s.index.requestedSize radii = none → ∀ journal, done ()
      { s with
        index := { s.index.reopen .bound with
          grid := { s.index.grid with cellSize := settledSize s.index.requestedSize radii }
          stage := .sized }
        meter := sizeMeter s s.index.requestedSize radii
        journal })
    (refused : ∀ r, sizeRefusal s.index.requestedSize radii = some r → ∀ meter,
      failed (.refused r) { s with index := s.index.reopen .bound, meter }) :
    Leads sizeCells s done failed := by
  unfold sizeCells
  rw [Leads.bind_iff, leads_requireStage, if_neg (Nat.not_lt.2 ready)]
  simp only [Leads.bind_iff, Action.leads_onIndex, Action.leads_index]
  have requested : (s.index.reopen .bound).requestedSize = s.index.requestedSize := rfl
  have contents : (s.index.reopen .bound).radii.contents = radii := measured
  rw [requested, contents]
  unfold sizeRefusal at sized refused
  cases finite : s.index.requestedSize.isFinite with
  | false => exact refused _ (by rw [finite]; rfl) _
  | true =>
    simp only [finite, Bool.not_true, Bool.false_eq_true, if_false] at sized refused ⊢
    cases radii with
    | nil =>
      have none : (s.index.reopen .bound).objectCount = 0 := count.symm
      rw [if_pos none]
      exact sized rfl _
    | cons r radii =>
      have some : ¬(s.index.reopen .bound).objectCount = 0 := fun none => by cases count.trans none
      rw [if_neg some, Leads.bind_iff]
      refine leads_chooseCellSize rfl (fun accepted journal => sized ?_ journal) fun r automatic unusable => ?_
      · rcases accepted with positive | usable
        · simp [positive]
        · simp [usable]
      · exact refused r (by simp [automatic, unusable]) _

/-- The grid with which `fill` records some objects: the one at hand, moved
to the origin that was set. -/
def placedGrid (origin : Option (Vec Float32)) (g : Grid Float32) (objects : Nat) : Grid Float32 :=
  if objects = 0 then g else { g with origin := origin.getD g.origin }

/-- What `fill` says of an origin and a grid that it cannot use. -/
def fillRefusal (origin : Option (Vec Float32)) (g : Grid Float32) (objects : Nat) : Option Refusal :=
  if objects = 0 then none
  else if origin.isNone then some (.setting .missingOrigin)
  else
    match (placedGrid origin g objects).validate with
    | .ok () => none
    | .error e => some (.setting e)

/-- The slots that `fill` gets room for. It asks for none without objects,
and none with settings that it cannot use. -/
def grantedRoom (memory : Memory) (x : Index) : Option Nat :=
  let slots := x.objectCount * slotsPerObject + 1
  if x.objectCount ≠ 0 ∧ fillRefusal x.origin x.grid x.objectCount = none ∧
    (x.entries.resize memory slots).isOk = true then some slots else none

/-- The room for records after `fill`. -/
def roomAfter (memory : Memory) (x : Index) : Nat :=
  (x.grantedRoom memory).elim x.entries.capacity (max x.entries.capacity)

theorem roomAfter_of_nothing {memory : Memory} {x : Index} (nothing : x.objectCount = 0) :
    x.roomAfter memory = x.entries.capacity := by
  rw [roomAfter, grantedRoom, if_neg fun asked => asked.1 nothing]
  rfl

theorem roomAfter_of_refusal {memory : Memory} {x : Index} {r : Refusal}
    (refused : fillRefusal x.origin x.grid x.objectCount = some r) : x.roomAfter memory = x.entries.capacity := by
  rw [roomAfter, grantedRoom, if_neg]
  · rfl
  · rintro ⟨_, accepted, _⟩
    cases accepted.symm.trans refused

theorem roomAfter_of_accepted {memory : Memory} {x : Index} (some : x.objectCount ≠ 0)
    (accepted : fillRefusal x.origin x.grid x.objectCount = none) :
    x.roomAfter memory =
      if (x.entries.resize memory (x.objectCount * slotsPerObject + 1)).isOk = true then
        max x.entries.capacity (x.objectCount * slotsPerObject + 1)
      else x.entries.capacity := by
  rw [roomAfter, grantedRoom]
  by_cases granted : (x.entries.resize memory (x.objectCount * slotsPerObject + 1)).isOk = true
  · rw [if_pos granted, if_pos ⟨some, accepted, granted⟩, Option.elim_some]
  · rw [if_neg granted, if_neg fun asked => granted asked.2.2, Option.elim_none]

theorem fetch_bucket {slots : List Entry} {i bucket : Nat} (atBucket : (slots.map (·.bucket))[i]? = some bucket) :
    (Fault.fetch slots.toArray i).map (·.bucket) = .ok bucket := by
  rw [List.getElem?_map] at atBucket
  obtain ⟨e, atSlot, rfl⟩ := Option.map_eq_some_iff.1 atBucket
  rw [Fault.fetch_eq_ok (by simpa using atSlot)]
  rfl

theorem writeSlots_fetched {g : Grid Float32} {spheres : List (Sphere Float32)} {i : Nat} {part old : List Entry}
    (found : (spheres.mapIdx fun i sphere => g.slots sphere i)[i]? = some part) (eight : old.length = slotsPerObject) :
    (do g.writeSlots (← Fault.fetch spheres.toArray i) i old) = .ok part := by
  rw [List.getElem?_mapIdx] at found
  obtain ⟨sphere, atSphere, rfl⟩ := Option.map_eq_some_iff.1 found
  rw [Fault.fetch_eq_ok (by simpa using atSphere)]
  exact Grid.writeSlots_eq_ok _ sphere i eight

theorem leads_fillSlots {memory : Memory} {s : Session} {spheres : List (Sphere Float32)} (some : spheres ≠ [])
    (contents : s.index.spheres.contents = spheres) {done : Unit → Session → Prop} {failed : Failure → Session → Prop}
    {room : Nat} (grown : (if (s.index.entries.resize memory (spheres.length * slotsPerObject + 1)).isOk = true then
      max s.index.entries.capacity (spheres.length * slotsPerObject + 1) else s.index.entries.capacity) = room)
    (filled : ∀ entries keys, entries.contents = s.index.grid.allSlots spheres →
      keys.contents = (s.index.grid.allSlots spheres).map (·.bucket) → entries.capacity = room → ∀ journal, done ()
        { s with
          index := { s.index with entries, keys }
          meter := (s.meter.launchedOver .light spheres.length).launchedOver .light
            (s.index.grid.allSlots spheres).length
          journal })
    (denied : ∀ e, memory.Denies e → ∀ entries keys meter, entries.capacity = room → failed e
      { s with index := { s.index with entries, keys }, meter }) :
    Leads (fillSlots memory spheres.length) s done failed := by
  have slots : spheres.length * slotsPerObject + 1 = (s.index.grid.allSlots spheres).length :=
    (Grid.length_allSlots some).symm
  unfold fillSlots
  simp only [Leads.bind_iff, Action.leads_index, Action.leads_onIndex]
  have kept : ∀ r, s.index.entries.resize memory (spheres.length * slotsPerObject + 1) = .error r →
      s.index.entries.capacity = room := fun r refused => by
    rw [refused] at grown
    exact grown
  refine Action.leads_resize_cases (fun entries resized => ?_) fun r refused =>
    denied _ (Tape.error_of_resize refused).1 _ _ _ (kept r refused)
  have lengthE := Tape.length_of_resize resized
  have roomE : entries.capacity = room := by
    rw [resized] at grown
    exact (Tape.capacity_of_resize resized).trans grown
  refine Action.leads_resize (fun keys lengthK => ?_) fun e refused => denied e refused _ _ _ roomE
  have eights : (entries.contents.take (spheres.length * slotsPerObject)).length =
      (spheres.mapIdx fun i sphere => s.index.grid.slots sphere i).length * slotsPerObject := by
    rw [List.length_take, Tape.length_contents, lengthE, List.length_mapIdx]
    omega
  simp only [Action.leads_metered]
  rw [Metered.leads_eachPiece (by decide) eights]
  · have sentinels : (entries.contents.drop (spheres.length * slotsPerObject)).map (fun _ => Entry.sentinel) =
        [Entry.sentinel] := by
      rw [List.map_const', List.length_drop, Tape.length_contents, lengthE, Nat.add_sub_cancel_left]
      rfl
    have written : (entries.write (s.index.grid.allSlots spheres)).contents = s.index.grid.allSlots spheres :=
      Tape.contents_write (by rw [lengthE, slots])
    rw [sentinels, ← Grid.allSlots_of_some some]
    simp only [written]
    rw [Metered.leads_eachElement ((s.index.grid.allSlots spheres).map (·.bucket))]
    · simp only [Action.leads_note]
      have bucketed : (keys.write ((s.index.grid.allSlots spheres).map (·.bucket))).contents =
          (s.index.grid.allSlots spheres).map (·.bucket) :=
        Tape.contents_write (by rw [List.length_map, lengthK, slots])
      have last := filled _ _ written bucketed ((Tape.capacity_write ..).trans roomE)
        (s.journal.note (.filled spheres.length (spheres.length * slotsPerObject + 1)))
      rw [List.length_mapIdx, List.length_map]
      exact last
    · rw [Tape.length_contents, lengthK, slots, List.length_map]
    · exact fun _ _ _ _ => fetch_bucket
  · rw [contents]
    exact fun i part found piece eight => writeSlots_fetched found eight

/-- After `fill` all objects are recorded with the grid of the run, and
every slot is filed under its bucket. -/
theorem leads_fill {memory : Memory} {s : Session} {spheres : List (Sphere Float32)}
    (ready : Stage.sized.rank ≤ s.index.stage.rank) (contents : s.index.spheres.contents = spheres)
    (count : spheres.length = s.index.objectCount) {done : Unit → Session → Prop}
    {failed : Failure → Session → Prop}
    {g : Grid Float32} (placed : placedGrid s.index.origin s.index.grid spheres.length = g)
    (filled : fillRefusal s.index.origin s.index.grid spheres.length = none → ∀ entries keys,
      entries.contents = g.allSlots spheres → keys.contents = (g.allSlots spheres).map (·.bucket) →
      entries.capacity = s.index.roomAfter memory → ∀ journal, done ()
        { s with
          index := { s.index.reopen .sized with grid := g, entries, keys, stage := .filled }
          meter := (s.meter.launchedOver .light spheres.length).launchedOver .light (g.allSlots spheres).length
          journal })
    (refused : ∀ e, (memory.Denies e ∨
        ∃ r, fillRefusal s.index.origin s.index.grid spheres.length = some r ∧ e = .refused r) →
      ∀ origin entries keys meter, entries.capacity = s.index.roomAfter memory → failed e
        { s with
          index := { s.index.reopen .sized with grid := { s.index.grid with origin }, entries, keys }
          meter }) :
    Leads (fill memory) s done failed := by
  unfold fill
  rw [Leads.bind_iff, leads_requireStage, if_neg (Nat.not_lt.2 ready)]
  simp only [Leads.bind_iff, Action.leads_onIndex, Action.leads_index]
  have objects : (s.index.reopen .sized).objectCount = s.index.objectCount := rfl
  have origin : (s.index.reopen .sized).origin = s.index.origin := rfl
  rw [objects, origin]
  rw [← count]
  by_cases none : spheres.length = 0
  · have empty : spheres = [] := List.length_eq_zero_iff.1 none
    subst empty
    have same : s.index.grid = g := placed
    rw [← same] at filled
    rw [if_pos none]
    exact filled (if_pos none) s.index.entries.clear s.index.keys.clear rfl rfl (roomAfter_of_nothing count.symm).symm
      s.journal
  · have some : spheres ≠ [] := fun empty => none (by rw [empty]; rfl)
    have refusal : fillRefusal s.index.origin s.index.grid spheres.length = _ := if_neg none
    have moved : { s.index.grid with origin := s.index.origin.getD s.index.grid.origin } = g :=
      (if_neg none).symm.trans placed
    rw [if_neg none]
    cases chosen : s.index.origin with
    | none =>
      rw [chosen] at refusal
      have room : s.index.roomAfter memory = s.index.entries.capacity :=
        roomAfter_of_refusal (by rw [chosen, ← count]; exact refusal)
      exact refused _ (Or.inr ⟨_, by rw [chosen]; exact refusal, rfl⟩) s.index.grid.origin _ _ _ room.symm
    | some origin =>
      have same : { s.index.grid with origin } = g := by
        rw [← moved, chosen]
        rfl
      rw [placed, chosen] at refusal
      simp only [Leads.bind_iff, Action.leads_onIndex]
      have grid : { (s.index.reopen .sized).grid with origin } = g := same
      rw [grid]
      cases valid : g.validate with
      | error problem =>
        rw [valid] at refusal
        rw [← same]
        have room : s.index.roomAfter memory = s.index.entries.capacity :=
          roomAfter_of_refusal (by rw [chosen, ← count]; exact refusal)
        exact refused _ (Or.inr ⟨_, by rw [chosen]; exact refusal, rfl⟩) origin _ _ _ room.symm
      | ok _ =>
        rw [valid] at refusal
        rw [Except.mapError, Action.leads_ofRefusal_ok]
        have accepted : fillRefusal s.index.origin s.index.grid s.index.objectCount = .none := by
          rw [chosen, ← count]
          exact refusal
        have some' : s.index.objectCount ≠ 0 := fun nothing => none (count.trans nothing)
        have room : s.index.roomAfter memory = _ := roomAfter_of_accepted some' accepted
        rw [← count] at room
        refine leads_fillSlots some ?_ room.symm (fun entries keys recorded filed grown journal => ?_)
          fun e denied _ _ _ grown => ?_
        · exact contents
        · exact filled (by rw [chosen]; exact refusal) entries keys recorded filed grown journal
        · rw [← same]
          exact refused e (Or.inl denied) origin _ _ _ grown

/-- After `sort` the slots are in the order of their buckets, and in their
old order inside each bucket. -/
theorem leads_sort {memory : Memory} {s : Session} {slots : List Entry}
    (ready : Stage.filled.rank ≤ s.index.stage.rank) (recorded : s.index.entries.contents = slots)
    (filed : s.index.keys.contents = slots.map (·.bucket)) (few : slots.length ≤ limit32)
    {done : Unit → Session → Prop} {failed : Failure → Session → Prop}
    (sorted : ∀ sortRoom sortedKeys sortedEntries,
      sortedKeys.contents = (radixSort Entry.bucket slots).map (·.bucket) →
      sortedEntries.contents = radixSort Entry.bucket slots → done ()
        { s with
          index := { s.index.reopen .filled with sortRoom, sortedKeys, sortedEntries, stage := .sorted }
          meter := if slots.length < 2 then s.meter
            else (((s.meter.launched .light).launched .light).launched .light).launched .light })
    (denied : ∀ e, memory.Denies e → ∀ sortedKeys sortedEntries meter, failed e
      { s with index := { s.index.reopen .filled with sortedKeys, sortedEntries }, meter }) :
    Leads (sort memory) s done failed := by
  unfold sort
  rw [Leads.bind_iff, leads_requireStage, if_neg (Nat.not_lt.2 ready)]
  simp only [Leads.bind_iff, Action.leads_onIndex, Action.leads_index]
  have length : (s.index.reopen .filled).keys.length = slots.length := by
    rw [← Tape.length_contents]
    exact (congrArg List.length filed).trans (List.length_map _)
  rw [length]
  refine Action.leads_resize (fun sortedKeys lengthK => ?_) fun e refused => denied e refused _ _ _
  refine Action.leads_resize (fun sortedEntries lengthE => ?_) fun e refused => denied e refused _ _ _
  have entries : (s.index.reopen .filled).entries.contents = slots.map id := recorded.trans (List.map_id _).symm
  have keys : (s.index.reopen .filled).keys.contents = slots.map Entry.bucket := filed
  rw [Action.leads_metered, entries, keys]
  refine leads_sortByKey few (by rw [Tape.length_contents, lengthK]) (by rw [Tape.length_contents, lengthE])
    (fun sortRoom => ?_) fun e refused => denied e refused _ _ _
  refine sorted sortRoom _ _ (Tape.contents_write ?_) ((Tape.contents_write ?_).trans (List.map_id _))
  · rw [List.length_map, length_radixSort, lengthK]
  · rw [List.length_map, length_radixSort, lengthE]

theorem leads_groupSlots {memory : Memory} {s : Session} {g : Grid Float32} {spheres : List (Sphere Float32)}
    (some : spheres ≠ []) (few : (g.allSlots spheres).length < limit32)
    (sorted : s.index.sortedKeys.contents = (radixSort Entry.bucket (g.allSlots spheres)).map (·.bucket))
    {done : Unit → Session → Prop} {failed : Failure → Session → Prop}
    (grouped : ∀ bucketKeys bucketSizes bucketOffsets heads bases,
      bucketKeys.contents = groupKeys Entry.bucket (g.allSlots spheres) →
      bucketSizes.contents = (keyGroups Entry.bucket (g.allSlots spheres)).map List.length →
      bucketOffsets.contents = sumsBefore 0 ((keyGroups Entry.bucket (g.allSlots spheres)).map List.length) → done ()
        { s with
          index := { s.index with
            bucketKeys, bucketSizes, bucketOffsets, heads, bases
            bucketCount := (keyGroups Entry.bucket (g.allSlots spheres)).length }
          meter := ((s.meter.launched .light).launched .light).waited.launched .light })
    (denied : ∀ e, memory.Denies e → ∀ bucketKeys bucketSizes bucketOffsets heads meter, failed e
      { s with index := { s.index with bucketKeys, bucketSizes, bucketOffsets, heads }, meter }) :
    Leads (groupSlots memory (g.allSlots spheres).length) s done failed := by
  have length : (expand (groupRuns Entry.bucket (g.allSlots spheres))).length = (g.allSlots spheres).length := by
    rw [expand_groupRuns, List.length_map, length_radixSort]
  unfold groupSlots
  simp only [Leads.bind_iff, Action.leads_onIndex, Action.leads_index]
  refine Action.leads_resize (fun bucketKeys lengthK => ?_) fun e refused => denied e refused _ _ _ _ _
  refine Action.leads_resize (fun bucketSizes lengthS => ?_) fun e refused => denied e refused _ _ _ _ _
  rw [Action.leads_metered, sorted, ← expand_groupRuns]
  rw [leads_encodeRuns (groupRuns_valid _ _) (length.trans_lt few) (by rw [length, Tape.length_contents, lengthK])
    (by rw [length, Tape.length_contents, lengthS])]
  have count : (groupRuns Entry.bucket (g.allSlots spheres)).length =
      (keyGroups Entry.bucket (g.allSlots spheres)).length := by
    rw [groupRuns, keyGroups, List.length_map, List.length_map]
  have runs := (groupRuns_valid Entry.bucket (g.allSlots spheres)).length_le
  rw [length, count] at runs
  rw [groupRuns_fst, groupRuns_snd, count]
  have wholeKeys : (groupKeys Entry.bucket (g.allSlots spheres) ++
      bucketKeys.contents.drop (keyGroups Entry.bucket (g.allSlots spheres)).length).length = bucketKeys.length := by
    simp [keyGroups, lengthK] at runs ⊢
    omega
  have wholeSizes : ((keyGroups Entry.bucket (g.allSlots spheres)).map List.length ++
      bucketSizes.contents.drop (keyGroups Entry.bucket (g.allSlots spheres)).length).length = bucketSizes.length := by
    simp [lengthS] at runs ⊢
    omega
  have partKeys : (groupKeys Entry.bucket (g.allSlots spheres)).length =
      (keyGroups Entry.bucket (g.allSlots spheres)).length := (List.length_map _).symm
  obtain ⟨keptKeys, resizedKeys, keysKept, _⟩ := Tape.resize_write memory wholeKeys partKeys
  obtain ⟨keptSizes, resizedSizes, sizesKept, lengthKept⟩ := Tape.resize_write memory wholeSizes (List.length_map _)
  have last : keptKeys.contents.getLast? = Option.some Entry.sentinelBucket := by
    rw [keysKept, Grid.groupKeys_allSlots some, List.getLast?_concat]
  rw [resizedKeys, Action.leads_ofRefusal_ok]
  rw [resizedSizes, Action.leads_ofRefusal_ok]
  simp only [Fault.check_of last, Action.leads_ofFault_ok]
  refine Action.leads_resize (fun bucketOffsets lengthO => ?_) fun e refused => denied e refused _ _ _ _ _
  have total : ((keyGroups Entry.bucket (g.allSlots spheres)).map List.length).sum < limit32 := by
    rw [← List.length_flatten, flatten_keyGroups, length_radixSort]
    exact few
  rw [Action.leads_metered, sizesKept]
  rw [leads_exclusiveSums (by rw [Tape.length_contents, lengthO, List.length_map]) total]
  have positive : (keyGroups Entry.bucket (g.allSlots spheres)).length ≠ 0 := by
    rw [keyGroups, Grid.groupKeys_allSlots some]
    simp
  simp only [List.length_map, Meter.launchedOver, positive, if_false]
  exact grouped keptKeys keptSizes _ _ _ keysKept sizesKept
    (Tape.contents_write (by rw [length_sumsBefore, List.length_map, lengthO]))

/-- After `group` the keys, sizes and places of the buckets are known, with
the bucket of unused slots behind all others. -/
theorem leads_group {memory : Memory} {s : Session} {g : Grid Float32} {spheres : List (Sphere Float32)}
    (ready : Stage.sorted.rank ≤ s.index.stage.rank) (few : (g.allSlots spheres).length < limit32)
    (sorted : s.index.sortedKeys.contents = (radixSort Entry.bucket (g.allSlots spheres)).map (·.bucket))
    {done : Unit → Session → Prop} {failed : Failure → Session → Prop}
    (grouped : ∀ bucketKeys bucketSizes bucketOffsets heads bases,
      bucketKeys.contents = groupKeys Entry.bucket (g.allSlots spheres) →
      bucketSizes.contents = (keyGroups Entry.bucket (g.allSlots spheres)).map List.length →
      bucketOffsets.contents = sumsBefore 0 ((keyGroups Entry.bucket (g.allSlots spheres)).map List.length) →
      ∀ journal, done ()
        { s with
          index := { s.index.reopen .sorted with
            bucketKeys, bucketSizes, bucketOffsets, heads, bases
            bucketCount := (keyGroups Entry.bucket (g.allSlots spheres)).length
            stage := .grouped }
          meter := if spheres.isEmpty then s.meter
            else ((s.meter.launched .light).launched .light).waited.launched .light
          journal })
    (denied : ∀ e, memory.Denies e → ∀ bucketKeys bucketSizes bucketOffsets heads meter, failed e
      { s with index := { s.index.reopen .sorted with bucketKeys, bucketSizes, bucketOffsets, heads }, meter }) :
    Leads (group memory) s done failed := by
  have length : (s.index.reopen .sorted).sortedKeys.length = (g.allSlots spheres).length := by
    rw [← Tape.length_contents]
    exact (congrArg List.length sorted).trans (by rw [List.length_map, length_radixSort])
  unfold group
  rw [Leads.bind_iff, leads_requireStage, if_neg (Nat.not_lt.2 ready)]
  simp only [Leads.bind_iff, Action.leads_onIndex, Action.leads_index]
  rw [length]
  by_cases none : spheres = []
  · subst none
    rw [if_neg (by simp [Grid.allSlots])]
    exact grouped (s.index.reopen .sorted).bucketKeys (s.index.reopen .sorted).bucketSizes
      (s.index.reopen .sorted).bucketOffsets s.index.heads s.index.bases rfl rfl rfl _
  · have slots : (g.allSlots spheres).length ≠ 0 := by
      rw [Grid.length_allSlots none]
      exact Nat.succ_ne_zero _
    have some : spheres.isEmpty = false := by simpa using none
    rw [if_pos slots, Leads.bind_iff]
    rw [some] at grouped
    refine leads_groupSlots none few ?_ (fun bucketKeys bucketSizes bucketOffsets heads bases keys sizes offsets => ?_)
      fun e refused _ _ _ _ _ => denied e refused _ _ _ _ _
    · exact sorted
    · exact grouped bucketKeys bucketSizes bucketOffsets heads bases keys sizes offsets _

end Index

end ContactGrid
