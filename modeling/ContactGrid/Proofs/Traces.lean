import ContactGrid.Proofs.StageOrder

namespace ContactGrid

/-- One call of the past, with the memory that it found and the session that
it was made in. -/
structure Moment where
  memory : Memory
  call : Call
  before : Session

namespace Moment

def outcome (m : Moment) : Except Failure Reply :=
  (m.call.perform m.memory m.before).1

def after (m : Moment) : Session :=
  (m.call.perform m.memory m.before).2

end Moment

namespace Call

/-- The source that a call binds. -/
def source? : Call → Option Source
  | .bind source => some source
  | _ => none

/-- The moments of calls that are made one after another until one fails. -/
def moments (memory : Memory) : List Call → Session → List Moment
  | [], _ => []
  | call :: calls, s =>
    match call.perform memory s with
    | (.ok _, t) => ⟨memory, call, s⟩ :: moments memory calls t
    | (.error _, _) => [⟨memory, call, s⟩]

/-- The moments that a call comes to. Only building has several. -/
def trace (memory : Memory) (call : Call) (s : Session) : List Moment :=
  moments memory call.parts s

end Call

theorem Call.trace_of_single {call : Call} (single : call.parts = [call]) (memory : Memory) (s : Session) :
    call.trace memory s = [⟨memory, call, s⟩] := by
  rw [trace, single, moments]
  rcases call.perform memory s with ⟨_ | _, t⟩ <;> rfl

/-- Indexes that calls can lead to, each with all moments of its past. Every
call may come with another memory, list of pairs, meter and journal. -/
inductive Index.Traced : Index → List Moment → Prop
  | new : Traced {} []
  | call {s : Session} {trace : List Moment} (memory : Memory) (call : Call) :
      Traced s.index trace → Traced (call.perform memory s).2.index (trace ++ call.trace memory s)

theorem Index.Traced.next {s t : Session} {trace : List Moment} (traced : s.index.Traced trace) (memory : Memory)
    (call : Call) (single : call.parts = [call]) (leads : (call.perform memory s).2 = t) :
    t.index.Traced (trace ++ [⟨memory, call, s⟩]) := by
  rw [← leads, ← call.trace_of_single single memory s]
  exact .call memory call traced

theorem Index.Traced.reached {x : Index} {trace : List Moment} (traced : x.Traced trace) : ∃ last, x.Reached last := by
  induction traced with
  | new => exact ⟨none, .new⟩
  | call memory call _ ih =>
    obtain ⟨last, reached⟩ := ih
    exact ⟨_, reached.call memory call⟩

/-- Every index that calls lead to has a past. -/
theorem Index.Reached.traced {x : Index} {last : Option (Grid Float32)} (reached : x.Reached last) :
    ∃ trace, x.Traced trace := by
  induction reached with
  | new => exact ⟨[], .new⟩
  | call memory call _ ih =>
    obtain ⟨trace, traced⟩ := ih
    exact ⟨_, traced.call memory call⟩

section Induction

variable {motive : Index → List Moment → Prop}

theorem Call.holds_moments
    (next : ∀ (m : Moment) trace last, m.call.parts = [m.call] → m.before.index.Kept last →
      motive m.before.index trace → motive m.after.index (trace ++ [m]))
    {memory : Memory} {calls : List Call} (single : ∀ call ∈ calls, call.parts = [call]) {s : Session}
    {last : Option (Grid Float32)} {trace : List Moment} (kept : s.index.Kept last) (holds : motive s.index trace) :
    motive (performUntil memory calls s).2.index (trace ++ moments memory calls s) := by
  induction calls generalizing s last trace with
  | nil => exact (List.append_nil trace).symm ▸ holds
  | cons call calls ih =>
    have first := next ⟨memory, call, s⟩ trace last (single call List.mem_cons_self) kept holds
    have after := call.kept_perform memory kept
    unfold Moment.after at first
    rw [performUntil, moments]
    -- A call that fails is a moment too, and the last one of the calls that
    -- were to follow.
    rcases run : call.perform memory s with ⟨_ | _, t⟩
    · rw [run] at first
      exact first
    · rw [run] at first after
      have rest := ih (fun call member => single call (List.mem_cons_of_mem _ member)) after first
      rwa [List.append_assoc] at rest

/-- What is true of a new index and stays true with every single call is
true of every index and its past. -/
theorem Index.Traced.holds (new : motive {} [])
    (next : ∀ (m : Moment) trace last, m.call.parts = [m.call] → m.before.index.Kept last →
      motive m.before.index trace → motive m.after.index (trace ++ [m]))
    {x : Index} {trace : List Moment} (traced : x.Traced trace) : motive x trace := by
  induction traced with
  | new => exact new
  | @call s trace memory call traced ih =>
    obtain ⟨last, reached⟩ := traced.reached
    rw [← call.performUntil_parts]
    exact Call.holds_moments next (fun _ => Call.parts_of_mem_parts) reached.kept ih

end Induction

/-- A call changes the bound spheres, the cell size and the room for records
only if that is what it is for. -/
structure Call.Frame (call : Call) (x y : Index) : Prop where
  spheres : call.source? = none → y.spheres = x.spheres
  objects : call.source? = none → y.objectCount = x.objectCount
  size : call.stage ≠ some .sized → y.grid.cellSize = x.grid.cellSize
  room : call.stage ≠ some .filled → y.entries.capacity = x.entries.capacity

namespace Call

variable {memory : Memory} {s : Session} {last : Option (Grid Float32)}

theorem Frame.refl (call : Call) (x : Index) : call.Frame x x :=
  ⟨fun _ => rfl, fun _ => rfl, fun _ => rfl, fun _ => rfl⟩

theorem placedGrid_cellSize (origin : Option (Vec Float32)) (g : Grid Float32) (objects : Nat) :
    (Index.placedGrid origin g objects).cellSize = g.cellSize := by
  unfold Index.placedGrid
  split <;> rfl

theorem leads_frame (memory : Memory) {call : Call} (single : call.parts = [call]) (kept : s.index.Kept last)
    (ready : ∀ needed operation, call.needs = some (needed, operation) → needed.rank ≤ s.index.stage.rank) :
    Leads (call.run memory) s (fun _ t => call.Frame s.index t.index) fun _ t => call.Frame s.index t.index := by
  cases call with
  | build source => cases single
  | bind source =>
    rw [run, Leads.bind_iff]
    have binds {p : Prop} (unbound : (Call.bind source).source? = none) : p := by cases unbound
    exact Index.leads_bind (fun _ _ _ _ _ => ⟨binds, binds, fun _ => rfl, fun _ => rfl⟩)
      fun _ _ _ _ _ => ⟨binds, binds, fun _ => rfl, fun _ => rfl⟩
  | sizeCells =>
    have bound := kept.bound (ready _ _ rfl)
    rw [run, Leads.bind_iff]
    exact Index.leads_sizeCells (ready _ _ rfl) bound.radii ((List.length_map _).trans bound.count)
      (fun _ _ => ⟨fun _ => rfl, fun _ => rfl, fun other => absurd rfl other, fun _ => rfl⟩)
      fun _ _ _ => ⟨fun _ => rfl, fun _ => rfl, fun _ => rfl, fun _ => rfl⟩
  | fill =>
    have bound := kept.bound (Nat.le_trans (by decide) (ready _ _ rfl))
    rw [run, Leads.bind_iff]
    exact Index.leads_fill (ready _ _ rfl) rfl bound.count rfl
      (fun _ _ _ _ _ _ _ =>
        ⟨fun _ => rfl, fun _ => rfl, fun _ => placedGrid_cellSize _ _ _, fun other => absurd rfl other⟩)
      fun _ _ _ _ _ _ _ => ⟨fun _ => rfl, fun _ => rfl, fun _ => rfl, fun other => absurd rfl other⟩
  | sort =>
    obtain ⟨g, rfl, recorded⟩ := kept.recorded (ready _ _ rfl)
    rw [run, Leads.bind_iff]
    exact Index.leads_sort (ready _ _ rfl) recorded.entries recorded.keys
      (Nat.le_of_lt (Index.length_allSlots_lt recorded.few))
      (fun _ _ _ _ _ => ⟨fun _ => rfl, fun _ => rfl, fun _ => rfl, fun _ => rfl⟩)
      fun _ _ _ _ _ => ⟨fun _ => rfl, fun _ => rfl, fun _ => rfl, fun _ => rfl⟩
  | group =>
    obtain ⟨g, rfl, sorted⟩ := kept.sorted (ready _ _ rfl)
    rw [run, Leads.bind_iff]
    exact Index.leads_group (ready _ _ rfl) (Index.length_allSlots_lt sorted.few) sorted.sortedKeys
      (fun _ _ _ _ _ _ _ _ _ => ⟨fun _ => rfl, fun _ => rfl, fun _ => rfl, fun _ => rfl⟩)
      fun _ _ _ _ _ _ _ => ⟨fun _ => rfl, fun _ => rfl, fun _ => rfl, fun _ => rfl⟩
  | listPairs =>
    obtain ⟨g, rfl, built⟩ := kept.built (Index.stage_eq_grouped (ready _ _ rfl))
    rw [run, Leads.bind_iff]
    exact Index.leads_listing built
      (fun _ _ _ _ _ _ _ _ => ⟨fun _ => rfl, fun _ => rfl, fun _ => rfl, fun _ => rfl⟩)
      fun _ _ _ _ _ _ _ _ => ⟨fun _ => rfl, fun _ => rfl, fun _ => rfl, fun _ => rfl⟩
  | visitPairs =>
    obtain ⟨g, rfl, built⟩ := kept.built (Index.stage_eq_grouped (ready _ _ rfl))
    rw [run, Leads.bind_iff]
    exact (Index.leads_visitPairs built).2 (.refl _ _)
  | _ => exact ⟨fun _ => rfl, fun _ => rfl, fun _ => rfl, fun _ => rfl⟩

theorem frame_perform (memory : Memory) {call : Call} (single : call.parts = [call]) (kept : s.index.Kept last) :
    call.Frame s.index (call.perform memory s).2.index := by
  by_cases ready : ∀ needed operation, call.needs = some (needed, operation) → needed.rank ≤ s.index.stage.rank
  · exact (leads_frame memory single kept ready).always
  · simp only [not_forall, Nat.not_le] at ready
    obtain ⟨needed, operation, needs, early⟩ := ready
    rw [perform_of_early needs early]
    exact .refl _ _

end Call

end ContactGrid
