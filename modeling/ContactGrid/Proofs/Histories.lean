import ContactGrid.Proofs.Records

namespace ContactGrid

namespace Call

/-- The work of a call from its start until the objects are recorded, if it
records them at all. -/
def recording (memory : Memory) : Call → Option (Action Unit)
  | .fill => some (Index.fill memory)
  | .build source => some do
    Index.bind memory source
    Index.sizeCells
    Index.fill memory
  | _ => none

/-- The grid with which objects were last recorded: that of the call if it
gets so far, else the one before. -/
def lastGrid (memory : Memory) (call : Call) (s : Session) (last : Option (Grid Float32)) :
    Option (Grid Float32) :=
  match call.recording memory with
  | none => last
  | some work =>
    match work.run.run s with
    | (.ok (), t) => some t.index.grid
    | (.error _, _) => last

end Call

/-- Indexes that calls can lead to, each labeled with the grid of its last
recording. Every call may come with another memory, list of pairs, meter and
journal. -/
inductive Index.Reached : Index → Option (Grid Float32) → Prop
  | new : Reached {} none
  | call {s : Session} {last : Option (Grid Float32)} (memory : Memory) (call : Call) :
      Reached s.index last → Reached (call.perform memory s).2.index (call.lastGrid memory s last)

/-- Sessions that are used by one caller throughout are among them. -/
theorem Session.Reachable.reached {s : Session} (reachable : s.Reachable) : ∃ last, s.index.Reached last := by
  induction reachable with
  | start => exact ⟨none, .new⟩
  | next memory call _ ih =>
    obtain ⟨last, reached⟩ := ih
    exact ⟨_, reached.call memory call⟩

namespace Index

/-- Some spheres are bound. -/
structure Bound (x : Index) : Prop where
  few : x.spheres.contents.length ≤ maxObjects
  count : x.spheres.contents.length = x.objectCount
  radii : x.radii.contents = x.spheres.contents.map (·.radius)

/-- The bound spheres are recorded in the cells of a grid. -/
structure Recorded (x : Index) (g : Grid Float32) : Prop extends x.Bound where
  size : x.grid.cellSize = g.cellSize
  entries : x.entries.contents = g.allSlots x.spheres.contents
  keys : x.keys.contents = (g.allSlots x.spheres.contents).map (·.bucket)

structure Sorted (x : Index) (g : Grid Float32) : Prop extends x.Recorded g where
  sortedKeys : x.sortedKeys.contents = (radixSort Entry.bucket (g.allSlots x.spheres.contents)).map (·.bucket)
  sortedEntries : x.sortedEntries.contents = radixSort Entry.bucket (g.allSlots x.spheres.contents)

structure Grouped (x : Index) (g : Grid Float32) : Prop extends x.Sorted g where
  bucketKeys : x.bucketKeys.contents = groupKeys Entry.bucket (g.allSlots x.spheres.contents)
  bucketSizes : x.bucketSizes.contents = (keyGroups Entry.bucket (g.allSlots x.spheres.contents)).map List.length
  bucketOffsets : x.bucketOffsets.contents =
    sumsBefore 0 ((keyGroups Entry.bucket (g.allSlots x.spheres.contents)).map List.length)
  buckets : x.bucketCount = (keyGroups Entry.bucket (g.allSlots x.spheres.contents)).length

/-- An index holds what its stage promises, made with the grid of the last
recording. Before the last stage it has no buckets. -/
structure Kept (x : Index) (last : Option (Grid Float32)) : Prop where
  ungrouped : x.stage ≠ .grouped → x.bucketCount = 0
  bound : Stage.bound.rank ≤ x.stage.rank → x.Bound
  recorded : Stage.filled.rank ≤ x.stage.rank → ∃ g, last = some g ∧ x.Recorded g
  sorted : Stage.sorted.rank ≤ x.stage.rank → ∃ g, last = some g ∧ x.Sorted g
  grouped : Stage.grouped.rank ≤ x.stage.rank → ∃ g, last = some g ∧ x.Grouped g

variable {x : Index} {g : Grid Float32} {last : Option (Grid Float32)}

theorem Grouped.built (grouped : x.Grouped g) (stage : x.stage = .grouped) : x.Built g x.spheres.contents where
  stage := stage
  few := grouped.few
  count := grouped.count.symm
  size := grouped.size
  bound := rfl
  entries := grouped.entries
  sorted := grouped.sortedEntries
  keys := grouped.bucketKeys
  sizes := grouped.bucketSizes
  offsets := grouped.bucketOffsets
  buckets := grouped.buckets

theorem stage_eq_grouped (ready : Stage.grouped.rank ≤ x.stage.rank) : x.stage = .grouped := by
  cases stage : x.stage <;> simp_all [Stage.rank]

namespace Kept

theorem built (kept : x.Kept last) (stage : x.stage = .grouped) :
    ∃ g, last = some g ∧ x.Built g x.spheres.contents := by
  obtain ⟨g, same, grouped⟩ := kept.grouped (by rw [stage])
  exact ⟨g, same, grouped.built stage⟩

/-- Settings and pairs have no part in it. -/
theorem frame (kept : x.Kept last) (groups : GroupSizes) (origin : Option (Vec Float32)) (requestedSize : Float32)
    (hash : CellHash) (pairCount : Nat) (pairSizes pairOffsets : Tape Nat) (pairBases : List Nat) :
    Kept
      { x with
        groups, origin, requestedSize, pairCount, pairSizes, pairOffsets, pairBases
        grid := { x.grid with hash } } last where
  ungrouped := kept.ungrouped
  bound ready := { kept.bound ready with }
  recorded ready := (kept.recorded ready).imp fun _ both => ⟨both.1, { both.2 with }⟩
  sorted ready := (kept.sorted ready).imp fun _ both => ⟨both.1, { both.2 with }⟩
  grouped ready := (kept.grouped ready).imp fun _ both => ⟨both.1, { both.2 with }⟩

theorem of_empty (stage : x.stage = .empty) (none : x.bucketCount = 0) : x.Kept last := by
  constructor
  · exact fun _ => none
  all_goals exact fun ready => absurd ready (by rw [stage]; decide)

theorem of_bound (bound : x.Bound) (stage : x.stage = .bound ∨ x.stage = .sized) (none : x.bucketCount = 0) :
    x.Kept last := by
  have early : x.stage.rank < Stage.filled.rank := by
    rcases stage with stage | stage <;> rw [stage] <;> decide
  constructor
  · exact fun _ => none
  · exact fun _ => bound
  · exact fun ready => absurd early (Nat.not_lt.2 ready)
  · exact fun ready => absurd (Nat.lt_trans early (by decide)) (Nat.not_lt.2 ready)
  · exact fun ready => absurd (Nat.lt_trans early (by decide)) (Nat.not_lt.2 ready)

theorem of_recorded (recorded : x.Recorded g) (stage : x.stage = .filled) (none : x.bucketCount = 0) :
    x.Kept (some g) where
  ungrouped _ := none
  bound _ := recorded.toBound
  recorded _ := ⟨g, rfl, recorded⟩
  sorted ready := absurd ready (by rw [stage]; decide)
  grouped ready := absurd ready (by rw [stage]; decide)

theorem of_sorted (sorted : x.Sorted g) (stage : x.stage = .sorted) (none : x.bucketCount = 0) :
    x.Kept (some g) where
  ungrouped _ := none
  bound _ := sorted.toBound
  recorded _ := ⟨g, rfl, sorted.toRecorded⟩
  sorted _ := ⟨g, rfl, sorted⟩
  grouped ready := absurd ready (by rw [stage]; decide)

theorem of_grouped (grouped : x.Grouped g) (stage : x.stage = .grouped) : x.Kept (some g) where
  ungrouped early := absurd stage early
  bound _ := grouped.toBound
  recorded _ := ⟨g, rfl, grouped.toRecorded⟩
  sorted _ := ⟨g, rfl, grouped.toSorted⟩
  grouped _ := ⟨g, rfl, grouped⟩

end Kept

end Index

/-- A failure that is a refusal, after which the index still holds what its
stage promises. -/
def Failure.Harmless (e : Failure) (last : Option (Grid Float32)) (t : Session) : Prop :=
  (∃ r, e = .refused r) ∧ t.index.Kept last

theorem Memory.Denies.refused {memory : Memory} {e : Failure} (denied : memory.Denies e) : ∃ r, e = .refused r := by
  obtain ⟨label, size, _, rfl⟩ := denied
  exact ⟨_, rfl⟩

/-- Stages fail for want of memory, or with a complaint of their own. -/
theorem Memory.refused_of_reason {memory : Memory} {e : Failure} {complaint : Refusal → Prop}
    (reason : memory.Denies e ∨ ∃ r, complaint r ∧ e = .refused r) : ∃ r, e = .refused r := by
  rcases reason with denied | ⟨r, _, rfl⟩
  · exact denied.refused
  · exact ⟨r, rfl⟩

namespace Index

/-- Done or refused, some work leaves the index with what its stage
promises. -/
def Keeps {α : Type} (work : Action α) (s : Session) (last : Option (Grid Float32)) : Prop :=
  Leads work s (fun _ t => t.index.Kept last) fun e t => e.Harmless last t

variable {memory : Memory} {s : Session} {last : Option (Grid Float32)}

theorem Keeps.bind {α β : Type} {work : Action α} {next : α → Action β} (first : Keeps work s last)
    (rest : ∀ a t, t.index.Kept last → Keeps (next a) t last) : Keeps (work >>= next) s last :=
  Leads.bind_iff.2 (first.imp (fun a t kept => rest a t kept) fun _ _ harmless => harmless)

theorem keeps_pure {α : Type} (a : α) (kept : s.index.Kept last) : Keeps (pure a) s last :=
  kept

theorem leads_early {α : Type} {needed : Stage} {operation : String} {work : Unit → Action α}
    (early : ¬needed.rank ≤ s.index.stage.rank) (kept : s.index.Kept last) {done : α → Session → Prop} :
    Leads (requireStage needed operation >>= work) s done fun e t => e.Harmless last t :=
  leads_requireStage_early (Nat.lt_of_not_le early) ⟨⟨_, rfl⟩, kept⟩

theorem keeps_bind (source : Source) : Keeps (bind memory source) s last := by
  refine leads_bind (fun accepted spheres radii uploaded measured => ?_) fun e reason _ _ _ =>
    ⟨Memory.refused_of_reason reason, .of_empty rfl rfl⟩
  refine .of_bound ⟨?_, ?_, ?_⟩ (Or.inl rfl) rfl
  · exact (congrArg List.length uploaded).trans_le (length_le_of_bindRefusal accepted)
  · exact congrArg List.length uploaded
  · exact uploaded ▸ measured

theorem keeps_sizeCells (kept : s.index.Kept last) : Keeps sizeCells s last := by
  by_cases ready : Stage.bound.rank ≤ s.index.stage.rank
  · have bound := kept.bound ready
    refine leads_sizeCells ready bound.radii ((List.length_map _).trans bound.count) (fun _ _ => ?_)
      fun r _ _ => ⟨⟨r, rfl⟩, ?_⟩
    · exact .of_bound { bound with } (Or.inr rfl) rfl
    · exact .of_bound { bound with } (Or.inl rfl) rfl
  · exact leads_early ready kept

/-- Once the objects are recorded, the grid of the index is the one they are
recorded with. -/
theorem leads_fill_kept (kept : s.index.Kept last) :
    Leads (fill memory) s (fun _ t => t.index.Kept (some t.index.grid)) fun e t => e.Harmless last t := by
  by_cases ready : Stage.sized.rank ≤ s.index.stage.rank
  · have bound := kept.bound (Nat.le_trans (by decide) ready)
    refine leads_fill ready rfl bound.count rfl (fun _ entries keys recorded filed _ _ => ?_)
      fun e reason _ _ _ _ _ => ⟨Memory.refused_of_reason reason, ?_⟩
    · exact .of_recorded ⟨{ bound with }, rfl, recorded, filed⟩ rfl rfl
    · exact .of_bound { bound with } (Or.inr rfl) rfl
  · exact leads_early ready kept

theorem keeps_sort (kept : s.index.Kept last) : Keeps (sort memory) s last := by
  by_cases ready : Stage.filled.rank ≤ s.index.stage.rank
  · obtain ⟨g, rfl, recorded⟩ := kept.recorded ready
    refine leads_sort ready recorded.entries recorded.keys (Nat.le_of_lt (length_allSlots_lt recorded.few))
      (fun _ _ _ keys entries => ?_) fun e denied _ _ _ => ⟨denied.refused, ?_⟩
    · exact .of_sorted ⟨{ recorded with }, keys, entries⟩ rfl rfl
    · exact .of_recorded { recorded with } rfl rfl
  · exact leads_early ready kept

theorem keeps_group (kept : s.index.Kept last) : Keeps (group memory) s last := by
  by_cases ready : Stage.sorted.rank ≤ s.index.stage.rank
  · obtain ⟨g, rfl, sorted⟩ := kept.sorted ready
    refine leads_group ready (length_allSlots_lt sorted.few) sorted.sortedKeys
      (fun _ _ _ _ _ keys sizes offsets _ => ?_) fun e denied _ _ _ _ _ => ⟨denied.refused, ?_⟩
    · exact .of_grouped ⟨{ sorted with }, keys, sizes, offsets, rfl⟩ rfl
    · exact .of_sorted { sorted with } rfl rfl
  · exact leads_early ready kept

theorem keeps_listPairs (kept : s.index.Kept last) : Keeps (listPairs memory) s last := by
  by_cases stage : s.index.stage = .grouped
  · obtain ⟨g, rfl, built⟩ := kept.built stage
    refine leads_listing built (fun _ _ _ _ _ _ _ _ => ?_) fun e denied _ _ _ _ _ _ => ⟨denied.refused, ?_⟩
    · exact kept.frame _ _ _ s.index.grid.hash _ _ _ _
    · exact kept.frame _ _ _ s.index.grid.hash _ _ _ _
  · exact leads_early (fun ready => stage (stage_eq_grouped ready)) kept

theorem keeps_visitPairs {σ : Type} (visit : σ → Pair → σ) (start : σ) (kept : s.index.Kept last) :
    Keeps (visitPairs visit start) s last := by
  by_cases stage : s.index.stage = .grouped
  · obtain ⟨g, rfl, built⟩ := kept.built stage
    exact (leads_visitPairs built).2 kept
  · exact leads_early (fun ready => stage (stage_eq_grouped ready)) kept

end Index

namespace Call

variable {memory : Memory} {s : Session} {last : Option (Grid Float32)}

theorem leads_recording {call : Call} {work : Action Unit} (records : call.recording memory = some work)
    (kept : s.index.Kept last) :
    Leads work s (fun _ t => t.index.Kept (some t.index.grid)) fun e t => e.Harmless last t := by
  cases call with
  | fill =>
    obtain rfl := Option.some.inj records
    exact Index.leads_fill_kept kept
  | build source =>
    obtain rfl := Option.some.inj records
    have sized : Index.Keeps (do Index.bind memory source; Index.sizeCells) s last :=
      (Index.keeps_bind source).bind fun _ _ kept => Index.keeps_sizeCells kept
    rw [← bind_assoc, Leads.bind_iff]
    exact sized.imp (fun _ t kept => Index.leads_fill_kept kept) fun _ _ harmless => harmless
  | _ => cases records

/-- A call that goes on after the recording keeps what the stages promise if
the rest of it does. -/
theorem keeps_run_of_recording {call : Call} {work : Action Unit} (records : call.recording memory = some work)
    {rest : Unit → Action Reply} (run : call.run memory = work >>= rest)
    (keeps : ∀ t last, t.index.Kept last → Index.Keeps (rest ()) t last) (kept : s.index.Kept last) :
    Index.Keeps (call.run memory) s (call.lastGrid memory s last) := by
  have leads := leads_recording records kept
  rw [run, Index.Keeps, Leads.bind_iff, lastGrid, records]
  -- Only a recording that was completed changes the label, whatever becomes
  -- of the rest of the call.
  rcases outcome : work.run.run s with ⟨e | _, t⟩
  · rw [Leads.iff_of_error outcome] at leads ⊢
    simpa only [outcome] using leads
  · rw [Leads.iff_of_ok outcome] at leads ⊢
    simp only [outcome]
    exact keeps t _ leads

/-- Every call keeps what the stages promise, and at worst it is refused. -/
theorem keeps_run (memory : Memory) (call : Call) (kept : s.index.Kept last) :
    Index.Keeps (call.run memory) s (call.lastGrid memory s last) := by
  cases call with
  | setGroups _ => exact kept.frame _ _ _ s.index.grid.hash _ _ _ _
  | setOrigin _ => exact kept.frame _ _ _ s.index.grid.hash _ _ _ _
  | setHash hash => exact kept.frame _ _ _ hash _ _ _ _
  | setCellSize _ => exact kept.frame _ _ _ s.index.grid.hash _ _ _ _
  | setJournal _ => exact kept
  | resetMeter => exact kept
  | bind source => exact (Index.keeps_bind source).bind fun _ _ => Index.keeps_pure _
  | sizeCells => exact (Index.keeps_sizeCells kept).bind fun _ _ => Index.keeps_pure _
  | fill => exact keeps_run_of_recording rfl rfl (fun _ _ kept => kept) kept
  | sort => exact (Index.keeps_sort kept).bind fun _ _ => Index.keeps_pure _
  | group => exact (Index.keeps_group kept).bind fun _ _ => Index.keeps_pure _
  | build source =>
    have run : (Call.build source).run memory = (do Index.bind memory source; Index.sizeCells; Index.fill memory) >>=
        fun _ => (do Index.sort memory; Index.group memory; return .done) := by
      simp only [Call.run, Index.build, bind_assoc]
    refine keeps_run_of_recording rfl run (fun t last kept => ?_) kept
    exact (Index.keeps_sort kept).bind fun _ _ kept => (Index.keeps_group kept).bind fun _ _ => Index.keeps_pure _
  | listPairs => exact (Index.keeps_listPairs kept).bind fun _ _ => Index.keeps_pure _
  | visitPairs => exact (Index.keeps_visitPairs _ _ kept).bind fun _ _ => Index.keeps_pure _

theorem kept_perform (memory : Memory) (call : Call) (kept : s.index.Kept last) :
    (call.perform memory s).2.index.Kept (call.lastGrid memory s last) := by
  rcases (call.keeps_run memory kept).cases with ⟨_, _, kept⟩ | ⟨_, _, _, kept⟩
  · exact kept
  · exact kept

end Call

namespace Index

variable {x : Index} {last : Option (Grid Float32)}

/-- Whatever calls have been made, an index holds what its stage promises. -/
theorem Reached.kept (reached : x.Reached last) : x.Kept last := by
  induction reached with
  | new => exact .of_empty rfl rfl
  | call memory call _ ih => exact call.kept_perform memory ih

theorem slice_nothing {α : Type} (xs : List α) : slice xs 0 0 = .ok [] :=
  if_pos (Nat.zero_le _)

/-- Without buckets there are no records. -/
theorem records_of_ungrouped (none : x.bucketCount = 0) : x.records = .ok [] := by
  have valid : x.validBuckets = 0 := by rw [validBuckets, none]
  rw [records, recordCount, if_pos valid, Fault.ok_bind, slice_nothing]

/-- The records and their summary can be read at any stage. -/
theorem Kept.reads (kept : x.Kept last) :
    ∃ records summary, x.records = .ok records ∧ x.summary = .ok summary := by
  by_cases stage : x.stage = .grouped
  · obtain ⟨g, rfl, built⟩ := kept.built stage
    exact ⟨_, _, built.records_eq_ok, built.summary_eq_ok⟩
  · have none : x.bucketCount = 0 := kept.ungrouped stage
    have valid : x.validBuckets = 0 := by rw [validBuckets, none]
    have records := records_of_ungrouped none
    have summary : ∃ sum, x.summary = .ok sum := by
      rw [Index.summary, valid, slice_nothing, Fault.ok_bind, records]
      exact ⟨_, rfl⟩
    obtain ⟨sum, summed⟩ := summary
    exact ⟨_, sum, records, summed⟩

end Index

theorem Leads.not_faulty {σ α : Type} {work : ExceptT Failure (StateM σ) α} {s : σ} {done : α → σ → Prop}
    {failed : Failure → σ → Prop} (leads : Leads work s done failed)
    (refused : ∀ e t, failed e t → ∃ r, e = .refused r) (fault : Fault) :
    (work.run.run s).1 ≠ .error (.faulty fault) := by
  intro outcome
  obtain ⟨r, wrong⟩ := refused _ _ (leads.of_error outcome)
  cases wrong

theorem Plan.leads_calls (memory : Memory) {s : Session} {last : Option (Grid Float32)} (kept : s.index.Kept last)
    (calls : List Call) :
    Leads (calls.forM fun call => do let _ ← call.run memory) s (fun _ t => ∃ last, t.index.Kept last)
      fun e t => ∃ last, e.Harmless last t := by
  induction calls generalizing s last with
  | nil => exact ⟨last, kept⟩
  | cons call calls ih =>
    simp only [List.forM, Leads.bind_iff]
    exact (call.keeps_run memory kept).imp (fun _ _ kept => ih kept) fun _ _ harmless => ⟨_, harmless⟩

/-- A session that was built from the row. -/
def Session.row : Session :=
  ((Call.build .row).perform .machine ((Call.setOrigin ⟨0, 0, 0⟩).perform .machine {}).2).2

theorem Session.row_reached : ∃ last, Session.row.index.Reached last := by
  have reachable : Session.row.Reachable := .next .machine (.build .row) (.next .machine (.setOrigin ⟨0, 0, 0⟩) .start)
  exact reachable.reached

/-- The last sphere of the row lies between the others and pairs with both. -/
theorem Session.row_lists : Session.row.index.stage = .grouped ∧
    (Call.listPairs.perform .machine Session.row).1.isOk = true ∧
    (Call.listPairs.perform .machine Session.row).2.pairs.contents = [⟨0, 2⟩, ⟨1, 2⟩] := by
  decide +kernel

/-- Whatever calls an index has been through, no further call, chain of
calls or visit runs into a fault, and its records, their text and the
summary can be read. -/
theorem Index.Reached.never_faulty {s : Session} {last : Option (Grid Float32)} (reached : s.index.Reached last) :
    (∀ memory call fault, (Call.perform memory call s).1 ≠ .error (.faulty fault)) ∧
      (∀ memory (plan : Plan) fault, ((plan.run memory).run.run s).1 ≠ .error (.faulty fault)) ∧
      (∀ (σ : Type) (visit : σ → Pair → σ) start fault,
        ((Index.visitPairs visit start).run.run s).1 ≠ .error (.faulty fault)) ∧
      ∃ records text summary, s.index.records = .ok records ∧ s.index.recordsText = .ok text ∧
        s.index.summary = .ok summary := by
  have kept := reached.kept
  refine ⟨fun memory call => ?_, fun memory plan => ?_, fun σ visit start => ?_, ?_⟩
  · exact (call.keeps_run memory kept).not_faulty fun _ _ harmless => harmless.1
  · exact (Plan.leads_calls memory kept plan.calls).not_faulty fun _ _ harmless => harmless.choose_spec.1
  · exact (Index.keeps_visitPairs visit start kept).not_faulty fun _ _ harmless => harmless.1
  · obtain ⟨records, summary, read, summed⟩ := kept.reads
    have text : s.index.recordsText = .ok (String.join ((Entry.header :: records.map Entry.text).map (· ++ "\n"))) := by
      rw [Index.recordsText, read]
      rfl
    exact ⟨records, _, summary, read, text, summed⟩

/-- After a build, asking for the list of pairs comes to no fault, and
records can be read. -/
theorem Session.row_never_faulty :
    (∃ last, Session.row.index.Reached last) ∧ Session.row.index.stage = .grouped ∧
      (∀ fault, (Call.listPairs.perform .machine Session.row).1 ≠ .error (.faulty fault)) ∧
      ∃ records, Session.row.index.records = .ok records := by
  obtain ⟨last, reached⟩ := Session.row_reached
  obtain ⟨calls, _, _, records, _, _, read, _⟩ := reached.never_faulty
  exact ⟨⟨last, reached⟩, Session.row_lists.1, calls .machine .listPairs, records, read⟩

end ContactGrid
