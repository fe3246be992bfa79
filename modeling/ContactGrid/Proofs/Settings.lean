import ContactGrid.Contacts
import ContactGrid.Proofs.Records

namespace ContactGrid

namespace Config

/-- The grid of a search: the settled cell size, and the origin and hash of
the settings. -/
def grid (c : Config) (spheres : List (Sphere Float32)) : Grid Float32 :=
  ⟨Index.settledSize (c.cellSize.getD 0) (spheres.map (·.radius)), c.origin, c.hash⟩

def refusal (c : Config) (spheres : List (Sphere Float32)) : Option Refusal :=
  (Index.bindRefusal spheres).or ((Index.sizeRefusal (c.cellSize.getD 0) (spheres.map (·.radius))).or
    (Index.fillRefusal (some c.origin) (c.grid spheres) spheres.length))

end Config

def Config.on (c : Config) (x : Index) : Index :=
  { x with
    groups := c.groups
    origin := some c.origin
    grid := { x.grid with hash := c.hash }
    requestedSize := c.cellSize.getD 0 }

theorem leads_plan {memory : Memory} {config : Config} {source : Source} {s : Session}
    {done : Unit → Session → Prop} {failed : Failure → Session → Prop} :
    Leads ((config.plan source).run memory) s done failed ↔
      Leads (Index.build memory source) { s with index := config.on s.index } done failed := by
  unfold Plan.run Config.plan Plan.calls
  simp only [Option.map_some, Option.toList_some, List.cons_append, List.nil_append, List.forM]
  simp only [Call.run, Leads.bind_iff, Leads.pure_iff, Action.leads_onIndex]
  rfl

theorem Config.buildRefusal_on (c : Config) (x : Index) (spheres : List (Sphere Float32)) :
    (c.on x).buildRefusal spheres = c.refusal spheres := by
  have fill : Index.fillRefusal (some c.origin) ((c.on x).sizedGrid spheres) spheres.length =
      Index.fillRefusal (some c.origin) (c.grid spheres) spheres.length := by
    unfold Index.fillRefusal Index.placedGrid
    by_cases none : spheres.length = 0
    · rw [if_pos none, if_pos none]
    · rw [if_neg none, if_neg none, if_neg none, if_neg none]
      rfl
  unfold Index.buildRefusal Config.refusal
  rw [← fill]
  rfl

theorem Config.runGrid_on (c : Config) (x : Index) {spheres : List (Sphere Float32)} (some : spheres ≠ []) :
    (c.on x).runGrid spheres = c.grid spheres :=
  if_neg fun none => some (List.length_eq_zero_iff.1 none)

theorem Index.Built.of_empty {x : Index} {g h : Grid Float32} (built : x.Built g []) (size : g.cellSize = h.cellSize) :
    x.Built h [] := by
  have slots : g.allSlots [] = h.allSlots [] := (if_pos rfl).trans (if_pos rfl).symm
  obtain ⟨stage, few, count, same, bound, entries, sorted, keys, sizes, offsets, buckets⟩ := built
  rw [slots] at entries sorted keys sizes offsets buckets
  exact ⟨stage, few, count, same.trans size, bound, entries, sorted, keys, sizes, offsets, buckets⟩

theorem Config.built_on {c : Config} {x y : Index} {spheres : List (Sphere Float32)}
    (built : y.Built ((c.on x).runGrid spheres) spheres) : y.Built (c.grid spheres) spheres := by
  by_cases none : spheres = []
  · subst none
    exact built.of_empty rfl
  · rwa [c.runGrid_on x none] at built

end ContactGrid
