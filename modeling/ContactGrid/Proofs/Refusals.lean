import ContactGrid.Proofs.Contacts
import ContactGrid.Proofs.MachineOrder

namespace ContactGrid

def BadRadius (r : Float32) : Prop :=
  Float32.lt r 0 = true ∨ r.isNaN = true

def Unbounded (x : Float32) : Prop :=
  x.isNaN = true ∨ x.isInf = true

/-- No cell size can be derived from such a largest radius. -/
def NoSizeFrom (maxRadius : Float32) : Prop :=
  (maxRadius * 2.25 == 0) = true ∨ Unbounded (maxRadius * 2.25)

/-- What a search complains about. Bad radii come before a bad cell size,
which comes before the lack of one, and a bad origin comes last. Without
spheres only the cell size matters. -/
inductive Config.Refuses (c : Config) (spheres : List (Sphere Float32)) : SettingError → Prop
  | radius {i : Nat} {s : Sphere Float32} : spheres[i]? = some s → BadRadius s.radius →
      (∀ j t, j < i → spheres[j]? = some t → ¬BadRadius t.radius) → Refuses c spheres (.unusableRadius i s.radius)
  | size : (∀ s ∈ spheres, ¬BadRadius s.radius) → Unbounded (c.cellSize.getD 0) →
      Refuses c spheres (.unusableCellSize (c.cellSize.getD 0))
  | noSize : (∀ s ∈ spheres, ¬BadRadius s.radius) → ¬Unbounded (c.cellSize.getD 0) → spheres ≠ [] →
      Float32.le (c.cellSize.getD 0) 0 = true → NoSizeFrom (maximum (spheres.map (·.radius))) →
      Refuses c spheres (.noCellSizeFrom (maximum (spheres.map (·.radius))))
  | origin : (∀ s ∈ spheres, ¬BadRadius s.radius) → ¬Unbounded (c.cellSize.getD 0) → spheres ≠ [] →
      ¬(Float32.le (c.cellSize.getD 0) 0 = true ∧ NoSizeFrom (maximum (spheres.map (·.radius)))) →
      Unbounded c.origin.x ∨ Unbounded c.origin.y ∨ Unbounded c.origin.z → Refuses c spheres .unboundedOrigin

section Numbers

variable {x : Float32}

theorem cellSizeScale_eq : cellSizeScale = 2.25 := by decide +kernel

theorem real32Rank_zero : real32Rank 0 ≠ ⊥ :=
  (real32_le_iff (x := 0) (y := 0)).1 (by decide +kernel) |>.1

theorem not_badRadius_iff : ¬BadRadius x ↔ Float32.le 0 x = true := by
  rw [BadRadius, real32_lt_iff, real32_isNaN_iff, real32_le_iff, and_iff_right real32Rank_zero]
  constructor
  · intro good
    by_contra below
    by_cases undefined : real32Rank x = ⊥
    · exact good (Or.inr undefined)
    · exact good (Or.inl ⟨undefined, not_le.1 below⟩)
  · rintro above (⟨_, below⟩ | undefined)
    · exact absurd above (not_le.2 below)
    · exact real32Rank_zero (le_bot_iff.1 (undefined ▸ above))

theorem forall_radius_of_good {spheres : List (Sphere Float32)} (good : ∀ s ∈ spheres, ¬BadRadius s.radius) :
    ∀ r ∈ spheres.map (·.radius), Float32.le 0 r = true :=
  List.forall_mem_map.2 fun s member => not_badRadius_iff.1 (good s member)

theorem unbounded_iff : Unbounded x ↔ x.isFinite = false :=
  real32_isFinite_eq_false_iff.symm

theorem bounded_iff : ¬Unbounded x ↔ x.isFinite = true := by
  rw [unbounded_iff, Bool.not_eq_false]

/-- Among finite numbers, those that are not positive are at most zero. -/
theorem le_zero_iff (finite : ¬Unbounded x) : Float32.le x 0 = true ↔ Float32.lt 0 x = false := by
  have defined : real32Rank x ≠ ⊥ := fun none => finite (Or.inl (real32_isNaN_iff.2 none))
  rw [real32_le_iff, and_iff_right defined, ← Bool.not_eq_true, real32_lt_iff, and_iff_right real32Rank_zero, not_lt]

/-- A finite number that is not negative is zero or positive. -/
theorem beq_zero_iff (finite : ¬Unbounded x) (above : Float32.lt x 0 = false) :
    (x == 0) = true ↔ Float32.lt 0 x = false := by
  have defined : real32Rank x ≠ ⊥ := fun none => finite (Or.inl (real32_isNaN_iff.2 none))
  rw [← Bool.not_eq_true, real32_lt_iff, and_iff_right defined, not_lt] at above
  rw [real32_beq_iff, and_iff_right defined, ← Bool.not_eq_true, real32_lt_iff, and_iff_right real32Rank_zero, not_lt]
  exact ⟨fun same => same.le, fun below => le_antisymm below above⟩

/-- An automatic size is refused just where there is none. The product is
never negative. -/
theorem noSizeFrom_iff (good : Float32.le 0 x = true) :
    NoSizeFrom x ↔ (!((x * cellSizeScale).isFinite && Float32.lt 0 (x * cellSizeScale))) = true := by
  have above : Float32.lt (x * 2.25) 0 = false := real32_mul_not_neg good (by decide +kernel)
  rw [NoSizeFrom, cellSizeScale_eq, Bool.not_and, Bool.or_eq_true, Bool.not_eq_true', Bool.not_eq_true',
    ← unbounded_iff]
  by_cases finite : Unbounded (x * 2.25)
  · exact iff_of_true (Or.inr finite) (Or.inl finite)
  · rw [or_iff_left finite, or_iff_right finite, beq_zero_iff finite above]

end Numbers

namespace Index

variable {spheres : List (Sphere Float32)} {r : Refusal}

theorem badRadius?_eq_some_iff {i : Nat} :
    badRadius? (spheres.map (·.radius)) = some i ↔ ∃ s, spheres[i]? = some s ∧ BadRadius s.radius ∧
      ∀ j t, j < i → spheres[j]? = some t → ¬BadRadius t.radius := by
  have bad (s : Sphere Float32) : ((fun r => !Float32.le 0 r) ∘ (·.radius)) s = true ↔ BadRadius s.radius := by
    rw [Function.comp_apply, Bool.not_eq_true', ← Bool.not_eq_true, ← not_badRadius_iff, not_not]
  rw [badRadius?, List.findIdx?_map, List.findIdx?_eq_some_iff_getElem]
  simp only [bad]
  constructor
  · rintro ⟨within, atI, before⟩
    refine ⟨spheres[i], List.getElem?_eq_getElem within, atI, fun j t less atJ => ?_⟩
    obtain ⟨inside, rfl⟩ := List.getElem?_eq_some_iff.1 atJ
    exact before j less
  · rintro ⟨s, atS, atI, before⟩
    obtain ⟨within, rfl⟩ := List.getElem?_eq_some_iff.1 atS
    exact ⟨within, atI, fun j less => before j _ less (List.getElem?_eq_getElem (Nat.lt_trans less within))⟩

theorem bindRefusal_eq_some_iff (few : spheres.length ≤ maxObjects) :
    bindRefusal spheres = some r ↔ ∃ i s, spheres[i]? = some s ∧ BadRadius s.radius ∧
      (∀ j t, j < i → spheres[j]? = some t → ¬BadRadius t.radius) ∧ .setting (.unusableRadius i s.radius) = r := by
  rw [bindRefusal, if_neg (Nat.not_lt.2 few), Option.map_eq_some_iff]
  refine exists_congr fun i => ?_
  rw [badRadius?_eq_some_iff]
  have named {s : Sphere Float32} (atS : spheres[i]? = some s) :
      (spheres.map (·.radius)).getD i default = s.radius := by
    rw [List.getD_eq_getElem?_getD, List.getElem?_map, atS]
    rfl
  constructor
  · rintro ⟨⟨s, atS, bad, before⟩, same⟩
    exact ⟨s, atS, bad, before, named atS ▸ same⟩
  · rintro ⟨s, atS, bad, before, same⟩
    exact ⟨⟨s, atS, bad, before⟩, (named atS).symm ▸ same⟩

theorem bindRefusal_eq_none_iff (few : spheres.length ≤ maxObjects) :
    bindRefusal spheres = none ↔ ∀ s ∈ spheres, ¬BadRadius s.radius := by
  rw [bindRefusal, if_neg (Nat.not_lt.2 few), Option.map_eq_none_iff, badRadius?, List.findIdx?_eq_none_iff]
  simp only [List.forall_mem_map, Bool.not_eq_false', not_badRadius_iff]

theorem automaticRefusal_eq_some_iff {radii : List Float32} (good : Float32.le 0 (maximum radii) = true) :
    automaticRefusal radii = some r ↔ NoSizeFrom (maximum radii) ∧ .setting (.noCellSizeFrom (maximum radii)) = r := by
  rw [automaticRefusal, Option.ite_none_right_eq_some, ← noSizeFrom_iff good, Option.some.injEq]

theorem sizeRefusal_eq_some_iff {requested : Float32} {radii : List Float32}
    (good : ∀ r ∈ radii, Float32.le 0 r = true) : sizeRefusal requested radii = some r ↔
      Unbounded requested ∧ .setting (.unusableCellSize requested) = r ∨
        ¬Unbounded requested ∧ radii ≠ [] ∧ Float32.le requested 0 = true ∧ NoSizeFrom (maximum radii) ∧
          .setting (.noCellSizeFrom (maximum radii)) = r := by
  unfold sizeRefusal
  by_cases unbounded : Unbounded requested
  · simp [unbounded_iff.1 unbounded, unbounded]
  · cases radii with
    | nil => simp [bounded_iff.1 unbounded, unbounded]
    | cons first rest =>
      have least := good _ (maximum_spec (List.cons_ne_nil first rest) good).1
      rw [le_zero_iff unbounded, ← automaticRefusal_eq_some_iff least]
      cases positive : Float32.lt 0 requested <;> simp [bounded_iff.1 unbounded, unbounded]

theorem sizeRefusal_eq_none_iff {requested : Float32} {radii : List Float32}
    (good : ∀ r ∈ radii, Float32.le 0 r = true) : sizeRefusal requested radii = none ↔
      ¬Unbounded requested ∧ (radii ≠ [] → ¬(Float32.le requested 0 = true ∧ NoSizeFrom (maximum radii))) := by
  simp only [Option.eq_none_iff_forall_ne_some, ne_eq, sizeRefusal_eq_some_iff good]
  constructor
  · intro accepted
    have bounded : ¬Unbounded requested := fun unbounded => accepted _ (Or.inl ⟨unbounded, rfl⟩)
    exact ⟨bounded, fun some both => accepted _ (Or.inr ⟨bounded, some, both.1, both.2, rfl⟩)⟩
  · rintro ⟨bounded, sized⟩ r (⟨unbounded, _⟩ | ⟨_, some, below, unsized, _⟩)
    · exact bounded unbounded
    · exact sized some ⟨below, unsized⟩

/-- Once a size was settled, filling complains about nothing but the
origin. -/
theorem fillRefusal_eq_some_iff {origin : Vec Float32} {g : Grid Float32} {objects : Nat}
    (sized : objects ≠ 0 → g.cellSize.isFinite = true ∧ Float32.lt 0 g.cellSize = true) :
    fillRefusal (some origin) g objects = some r ↔
      objects ≠ 0 ∧ (Unbounded origin.x ∨ Unbounded origin.y ∨ Unbounded origin.z) ∧ .setting .unboundedOrigin = r := by
  unfold fillRefusal placedGrid Grid.validate
  by_cases none : objects = 0
  · simp [none]
  · obtain ⟨finite, positive⟩ := sized none
    have inside : origin.all Float32.isFinite = false ↔
        Unbounded origin.x ∨ Unbounded origin.y ∨ Unbounded origin.z := by
      simp only [Vec.all, Bool.and_eq_false_iff, unbounded_iff, or_assoc]
    cases bounded : origin.all Float32.isFinite <;> simp [none, finite, positive, bounded, ← inside]

theorem settledSize_usable {requested : Float32} {radii : List Float32} (some : radii ≠ [])
    (accepted : sizeRefusal requested radii = none) :
    (settledSize requested radii).isFinite = true ∧ Float32.lt 0 (settledSize requested radii) = true := by
  have some : radii.isEmpty = false := by simpa using some
  unfold sizeRefusal automaticRefusal at accepted
  unfold settledSize
  cases finite : requested.isFinite with
  | false => simp [finite] at accepted
  | true =>
    cases positive : Float32.lt 0 requested with
    | true => simp [some, finite, positive]
    | false => simpa [some, finite, positive] using accepted

end Index

namespace Config

variable {c : Config} {spheres : List (Sphere Float32)} {r : Refusal}

theorem refusal_eq_some_iff (few : spheres.length ≤ Index.maxObjects) :
    c.refusal spheres = some r ↔ ∃ error, c.Refuses spheres error ∧ .setting error = r := by
  have radii (good : ∀ s ∈ spheres, ¬BadRadius s.radius) := forall_radius_of_good good
  have sized (accepted : Index.sizeRefusal (c.cellSize.getD 0) (spheres.map (·.radius)) = none) :
      spheres.length ≠ 0 → (c.grid spheres).cellSize.isFinite = true ∧ Float32.lt 0 (c.grid spheres).cellSize = true :=
    fun some => Index.settledSize_usable (fun none => some (by rw [List.map_eq_nil_iff.1 none]; rfl)) accepted
  unfold refusal
  rw [Option.or_eq_some_iff, Option.or_eq_some_iff, Index.bindRefusal_eq_some_iff few, Index.bindRefusal_eq_none_iff few]
  constructor
  · rintro (⟨i, s, atS, bad, before, rfl⟩ | ⟨good, refused | ⟨accepted, refused⟩⟩)
    · exact ⟨_, .radius atS bad before, rfl⟩
    · rcases (Index.sizeRefusal_eq_some_iff (radii good)).1 refused with
        ⟨unbounded, rfl⟩ | ⟨bounded, some, below, unsized, rfl⟩
      · exact ⟨_, .size good unbounded, rfl⟩
      · exact ⟨_, .noSize good bounded (fun none => some (List.map_eq_nil_iff.2 none)) below unsized, rfl⟩
    · obtain ⟨bounded, settled⟩ := (Index.sizeRefusal_eq_none_iff (radii good)).1 accepted
      obtain ⟨some, outside, rfl⟩ := (Index.fillRefusal_eq_some_iff (sized accepted)).1 refused
      have some : spheres ≠ [] := fun none => some (by rw [none]; rfl)
      exact ⟨_, .origin good bounded some (settled (mt List.map_eq_nil_iff.1 some)) outside, rfl⟩
  · rintro ⟨error, refuses, rfl⟩
    cases refuses with
    | radius atS bad before => exact Or.inl ⟨_, _, atS, bad, before, rfl⟩
    | size good unbounded =>
      exact Or.inr ⟨good, Or.inl ((Index.sizeRefusal_eq_some_iff (radii good)).2 (Or.inl ⟨unbounded, rfl⟩))⟩
    | noSize good bounded some below unsized =>
      have some : spheres.map (·.radius) ≠ [] := mt List.map_eq_nil_iff.1 some
      exact Or.inr ⟨good, Or.inl ((Index.sizeRefusal_eq_some_iff (radii good)).2
        (Or.inr ⟨bounded, some, below, unsized, rfl⟩))⟩
    | origin good bounded some settled outside =>
      have accepted := (Index.sizeRefusal_eq_none_iff (radii good)).2 ⟨bounded, fun _ => settled⟩
      have filled : spheres.length ≠ 0 := mt List.length_eq_zero_iff.1 some
      exact Or.inr ⟨good, Or.inr ⟨accepted, (Index.fillRefusal_eq_some_iff (sized accepted)).2 ⟨filled, outside, rfl⟩⟩⟩

end Config

theorem maximum_radius {spheres : List (Sphere Float32)} (good : ∀ s ∈ spheres, ¬BadRadius s.radius)
    (some : spheres ≠ []) : maximum (spheres.map (·.radius)) ∈ spheres.map (·.radius) ∧
      ∀ s ∈ spheres, Float32.le s.radius (maximum (spheres.map (·.radius))) = true := by
  obtain ⟨inside, all⟩ := maximum_spec (mt List.map_eq_nil_iff.1 some)
    (forall_radius_of_good good)
  exact ⟨inside, List.forall_mem_map.1 all⟩

/-- With memory for everything, a search of spheres whose slots can be
numbered is refused for exactly one complaint if there is any, and otherwise
it returns its contacts. The maximum that a complaint names is the largest
radius. -/
theorem findContacts_refused_iff {source : Source} (few : source.count ≤ Index.maxObjects) (finest : Option Level)
    (config : Config) :
    (∀ error, (findContacts .endless finest config source).1 = .error (.refused (.setting error)) ↔
        config.Refuses source.toList error) ∧
      ((∃ contacts, (findContacts .endless finest config source).1 = .ok contacts) ↔
        ∀ error, ¬config.Refuses source.toList error) ∧
      (∀ e, (findContacts .endless finest config source).1 = .error e → ∃ error, e = .refused (.setting error)) ∧
      ((∀ s ∈ source.toList, ¬BadRadius s.radius) → source.toList ≠ [] →
        maximum (source.toList.map (·.radius)) ∈ source.toList.map (·.radius) ∧
          ∀ s ∈ source.toList, Float32.le s.radius (maximum (source.toList.map (·.radius))) = true) := by
  have refusal {r : Refusal} := @Config.refusal_eq_some_iff config source.toList r (source.length_toList.trans_le few)
  rcases findContacts_cases .endless finest config source with ⟨accepted, found⟩ | ⟨e, denied | ⟨r, refused, rfl⟩, failed⟩
  · have content (error : SettingError) : ¬config.Refuses source.toList error := fun refuses => by
      cases accepted.symm.trans (refusal.2 ⟨error, refuses, rfl⟩)
    rw [found]
    exact ⟨fun error => iff_of_false nofun (content error), iff_of_true ⟨_, rfl⟩ content, nofun, maximum_radius⟩
  · exact absurd denied (Memory.not_endless_denies e)
  · obtain ⟨error, refuses, rfl⟩ := refusal.1 refused
    rw [failed]
    refine ⟨fun other => ⟨fun same => ?_, fun complaint => ?_⟩, iff_of_false nofun fun content => content error refuses,
      fun _ same => ⟨error, (Except.error.inj same).symm⟩, maximum_radius⟩
    · cases same
      exact refuses
    · cases refused.symm.trans (refusal.2 ⟨other, complaint, rfl⟩)
      rfl

/-- A negative radius is what a search complains about, even if its cell
size and its origin are undefined. -/
theorem findContacts_refused_row : 1 ≤ Index.maxObjects ∧
    (findContacts .endless none { cellSize := some (0 / 0), origin := ⟨0 / 0, 0, 0⟩ } (.ofList [⟨⟨0, 0, 0⟩, -1⟩])).1 =
      .error (.refused (.setting (.unusableRadius 0 (-1)))) := by
  have few : (Source.ofList [⟨⟨0, 0, 0⟩, -1⟩]).count ≤ Index.maxObjects := by decide
  refine ⟨few, ((findContacts_refused_iff few none _).1 _).2 ?_⟩
  rw [Source.toList_ofList]
  exact .radius (i := 0) (s := ⟨⟨0, 0, 0⟩, -1⟩) rfl (Or.inl (by decide +kernel)) fun j t less => absurd less (Nat.not_lt_zero j)

end ContactGrid
