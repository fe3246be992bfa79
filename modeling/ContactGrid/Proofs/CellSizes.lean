import ContactGrid.Proofs.Binding
import Mathlib.Data.List.DropRight

namespace ContactGrid

namespace Moment

/-- The size that a call settles: only `sizeCells` settles one, and only if
it succeeds. -/
def settled (m : Moment) : Option Float32 :=
  if m.call.stage = some .sized ∧ m.outcome.isOk = true then
    some (Index.settledSize m.before.index.requestedSize (m.before.index.spheres.contents.map (·.radius)))
  else none

end Moment

/-- The size that was settled last, in whatever run. It is zero before any
is. -/
def settledBy (trace : List Moment) : Float32 :=
  (trace.filterMap Moment.settled).getLast?.getD 0

/-- A run starts with `bind`. What came after the last of them belongs to
the current run. -/
def thisRun (trace : List Moment) : List Moment :=
  trace.rtakeWhile fun m => m.call.source?.isNone

/-- What came before, up to the `bind` with which the current run starts. -/
def earlierRuns (trace : List Moment) : List Moment :=
  trace.rdropWhile fun m => m.call.source?.isNone

section Traces

variable {trace : List Moment}

theorem settledBy_concat (m : Moment) : settledBy (trace ++ [m]) = m.settled.getD (settledBy trace) := by
  rw [settledBy, List.filterMap_append, List.filterMap_cons, List.filterMap_nil]
  cases m.settled with
  | none => rw [List.append_nil, Option.getD_none, settledBy]
  | some size => rw [List.getLast?_concat, Option.getD_some, Option.getD_some]

/-- Without a size of its own a run has the size that the runs before it
have left. -/
theorem settledBy_earlierRuns (unresolved : ∀ m ∈ thisRun trace, m.settled = none) :
    settledBy trace = settledBy (earlierRuns trace) := by
  have none : (thisRun trace).filterMap Moment.settled = [] := List.filterMap_eq_nil_iff.2 unresolved
  have split : trace.filterMap Moment.settled = (earlierRuns trace).filterMap Moment.settled := by
    calc trace.filterMap Moment.settled
      _ = (earlierRuns trace ++ thisRun trace).filterMap Moment.settled := by
        rw [earlierRuns, thisRun, List.rdropWhile_append_rtakeWhile]
      _ = (earlierRuns trace).filterMap Moment.settled := by rw [List.filterMap_append, none, List.append_nil]
  rw [settledBy, split, settledBy]

end Traces

theorem real32Larger_zero (x : Float32) : real32Larger 0 x = if Float32.lt 0 x then x else 0 := by
  have defined : (0 : Float32).isNaN = false := by decide +kernel
  rw [real32Larger, defined, if_neg Bool.false_ne_true]
  rfl

namespace Index

theorem cellSize_of_summary {x : Index} {summary : Summary} (summed : x.summary = .ok summary) :
    summary.cellSize = x.grid.cellSize := by
  unfold Index.summary at summed
  cases sizes : slice x.bucketSizes.contents 0 x.validBuckets with
  | error f => rw [sizes] at summed; cases summed
  | ok sizes' =>
    rw [sizes, Fault.ok_bind] at summed
    cases records : x.records with
    | error f => rw [records] at summed; cases summed
    | ok records' =>
      rw [records, Fault.ok_bind] at summed
      cases summed
      rfl

variable {s : Session} {last : Option (Grid Float32)}

/-- If a size is settled the grid takes it over. Else the grid keeps the
size that it has. -/
theorem leads_sizeCells_size (kept : s.index.Kept last) :
    Leads sizeCells s
      (fun _ t => t.index.grid.cellSize = settledSize s.index.requestedSize (s.index.spheres.contents.map (·.radius)))
      fun _ t => t.index.grid.cellSize = s.index.grid.cellSize := by
  by_cases ready : Stage.bound.rank ≤ s.index.stage.rank
  · have bound := kept.bound ready
    exact leads_sizeCells ready bound.radii ((List.length_map _).trans bound.count) (fun _ _ => rfl) fun _ _ _ => rfl
  · exact leads_requireStage_early (Nat.lt_of_not_le ready) rfl

end Index

namespace Moment

variable {m : Moment} {last : Option (Grid Float32)}

theorem settled_of_stage (other : m.call.stage ≠ some .sized) : m.settled = none :=
  if_neg fun both => other both.1

theorem settled_of_empty (empty : m.before.index.stage = .empty) : m.settled = none := by
  refine if_neg ?_
  rintro ⟨sizes, ok⟩
  obtain ⟨memory, call, before⟩ := m
  cases call <;> cases sizes
  have early : before.index.stage.rank < Stage.bound.rank := by
    rw [empty]
    decide
  rw [outcome, Call.perform_of_early rfl early] at ok
  cases ok

theorem cellSize_after (single : m.call.parts = [m.call]) (kept : m.before.index.Kept last) :
    m.after.index.grid.cellSize = m.settled.getD m.before.index.grid.cellSize := by
  by_cases sizes : m.call.stage = some .sized
  · obtain ⟨memory, call, before⟩ := m
    cases call <;> cases sizes
    have leads : Leads (Call.sizeCells.run memory) before
        (fun _ t => t.index.grid.cellSize =
          Index.settledSize before.index.requestedSize (before.index.spheres.contents.map (·.radius)))
        fun _ t => t.index.grid.cellSize = before.index.grid.cellSize := by
      rw [Call.run, Leads.bind_iff]
      exact Index.leads_sizeCells_size kept
    rcases leads.cases with ⟨reply, outcome, size⟩ | ⟨e, outcome, size⟩
    · have outcome : (Call.sizeCells.perform memory before).1 = .ok reply := outcome
      rw [settled, if_pos ⟨rfl, by rw [Moment.outcome, outcome]; rfl⟩]
      exact size
    · have outcome : (Call.sizeCells.perform memory before).1 = .error e := outcome
      rw [settled, if_neg fun both => by rw [Moment.outcome, outcome] at both; cases both.2]
      exact size
  · rw [settled_of_stage sizes]
    exact (Call.frame_perform m.memory single kept).size sizes

end Moment

namespace Index

variable {x : Index} {trace : List Moment}

theorem Traced.cellSize_eq_settledBy (traced : x.Traced trace) : x.grid.cellSize = settledBy trace := by
  refine traced.holds (motive := fun x trace => x.grid.cellSize = settledBy trace) rfl
    fun m trace last single kept same => ?_
  rw [settledBy_concat, ← same]
  exact m.cellSize_after single kept

theorem Traced.summary_cellSize (traced : x.Traced trace) :
    ∃ summary, x.summary = .ok summary ∧ summary.cellSize = x.grid.cellSize := by
  obtain ⟨last, reached⟩ := traced.reached
  obtain ⟨_, summary, _, summed⟩ := reached.kept.reads
  exact ⟨summary, summed, cellSize_of_summary summed⟩

/-- Before the first `bind` no size can be settled. -/
theorem Traced.unsettled (traced : x.Traced trace) (unbound : lastBind trace = none) :
    ∀ m ∈ trace, m.settled = none := by
  have both : x.BoundBy (lastBind trace) ∧ (lastBind trace = none → ∀ m ∈ trace, m.settled = none) := by
    refine traced.holds
      (motive := fun x trace => x.BoundBy (lastBind trace) ∧ (lastBind trace = none → ∀ m ∈ trace, m.settled = none))
      ⟨.never rfl rfl rfl, fun _ _ member => absurd member List.not_mem_nil⟩ fun m trace last single kept ih => ?_
    refine ⟨m.boundBy_concat single kept ih.1, fun unbound n member => ?_⟩
    have other : m.call.source? = none := source?_of_lastBind unbound
    rw [lastBind_concat_of_not other] at unbound
    rcases List.mem_append.1 member with earlier | newest
    · exact ih.2 unbound n earlier
    · rw [List.mem_singleton.1 newest]
      exact m.settled_of_empty (unbound ▸ ih.1).empty_of_never
  exact both.2 unbound

/-- The size that is settled for no objects is the requested one, if that is
positive, or zero. -/
theorem leads_sizeCells_nothing {s : Session} {last : Option (Grid Float32)} (kept : s.index.Kept last)
    (nothing : s.index.objectCount = 0) :
    Leads sizeCells s
      (fun _ t => t.index.grid.cellSize =
        if Float32.lt 0 s.index.requestedSize then s.index.requestedSize else 0)
      fun _ _ => True := by
  by_cases ready : Stage.bound.rank ≤ s.index.stage.rank
  · have none : s.index.spheres.contents = [] := List.length_eq_zero_iff.1 ((kept.bound ready).count.trans nothing)
    refine (leads_sizeCells_size kept).imp (fun _ t size => ?_) fun _ _ _ => trivial
    rw [size, none, ← real32Larger_zero]
    rfl
  · exact leads_requireStage_early (Nat.lt_of_not_le ready) trivial

end Index

/-- The cell size of an index, and that of its summary, is the one that was
settled last. A new run starts with the size that the runs before it have
left, and shows it until it settles one of its own. Only before the first
`bind` it is sure to be zero. Once settled for no objects, it is the
requested size if that is positive, or zero. -/
theorem Index.Traced.cell_size {s : Session} {trace : List Moment} (traced : s.index.Traced trace) :
    s.index.grid.cellSize = settledBy trace ∧
    (∃ summary, s.index.summary = .ok summary ∧ summary.cellSize = settledBy trace) ∧
    ((∀ m ∈ thisRun trace, m.settled = none) → settledBy trace = settledBy (earlierRuns trace)) ∧
    (lastBind trace = none → settledBy trace = 0) ∧
    ∀ memory reply t, Call.sizeCells.perform memory s = (.ok reply, t) → s.index.objectCount = 0 →
      t.index.grid.cellSize = (if Float32.lt 0 s.index.requestedSize then s.index.requestedSize else 0) ∧
        ∃ summary, t.index.summary = .ok summary ∧ summary.cellSize = t.index.grid.cellSize := by
  have size := traced.cellSize_eq_settledBy
  refine ⟨size, ?_, settledBy_earlierRuns, fun unbound => ?_, fun memory reply t performed nothing => ?_⟩
  · rw [← size]
    exact traced.summary_cellSize
  · rw [settledBy, List.filterMap_eq_nil_iff.2 (traced.unsettled unbound)]
    rfl
  · obtain ⟨last, reached⟩ := traced.reached
    have leads : Leads (Call.sizeCells.run memory) s
        (fun _ t => t.index.grid.cellSize = if Float32.lt 0 s.index.requestedSize then s.index.requestedSize else 0)
        fun _ _ => True := by
      rw [Call.run, Leads.bind_iff]
      exact leads_sizeCells_nothing reached.kept nothing
    rw [Leads.iff_of_ok performed] at leads
    exact ⟨leads, (traced.next memory .sizeCells rfl (congrArg Prod.snd performed)).summary_cellSize⟩

/-- The row is bound once more. No size is settled for this run, and the
index shows that of the run before. -/
theorem Session.row_cell_size : ∃ trace t, t.index.Traced trace ∧
    t = ((Call.bind .row).perform .machine Session.row).2 ∧ (∀ m ∈ thisRun trace, m.settled = none) ∧
    t.index.stage = .bound ∧ t.index.grid.cellSize = 1.125 ∧ settledBy (earlierRuns trace) = 1.125 := by
  obtain ⟨_, reached⟩ := Session.row_reached
  obtain ⟨trace, built⟩ := reached.traced
  have rebound := built.next .machine (.bind .row) rfl rfl
  obtain ⟨size, _, inherited, _⟩ := rebound.cell_size
  have unresolved : ∀ m ∈ thisRun (trace ++ [⟨.machine, .bind .row, Session.row⟩]), m.settled = none := by
    rw [thisRun, List.rtakeWhile_concat_neg _ _ _ (by simp [Call.source?])]
    exact fun _ none => absurd none List.not_mem_nil
  have shown : ((Call.bind .row).perform .machine Session.row).2.index.grid.cellSize = 1.125 := by decide +kernel
  have stage : ((Call.bind .row).perform .machine Session.row).2.index.stage = .bound := by decide +kernel
  exact ⟨_, _, rebound, rfl, unresolved, stage, shown, (inherited unresolved).symm.trans (size.symm.trans shown)⟩

end ContactGrid
