import ContactGrid.Proofs.Modes

namespace ContactGrid

/-- A failure of a call that was made too early. -/
def Failure.isOutOfOrder : Failure → Bool
  | .refused (.outOfOrder _ _) => true
  | _ => false

/-- One call of one stage, and what came of it. -/
structure StageEvent where
  stage : Stage
  outcome : Except Failure Reply

namespace StageEvent

def admitted (event : StageEvent) : Bool :=
  match event.outcome with
  | .ok _ => true
  | .error e => !e.isOutOfOrder

/-- A stage that fails counts as the one below it. -/
def level (event : StageEvent) : Nat :=
  match event.outcome with
  | .ok _ => event.stage.rank
  | .error _ => event.stage.rank - 1

def reaches (event : StageEvent) (stage : Stage) : Bool :=
  event.stage = stage && event.outcome.isOk

end StageEvent

/-- What the stage calls of the past amount to: only the last one that was
admitted counts. -/
def levelAfter (log : List StageEvent) : Nat :=
  ((log.filter StageEvent.admitted).getLast?.map StageEvent.level).getD 0

/-- The place in a log at which a stage was last reached. -/
def lastReached (log : List StageEvent) (stage : Stage) : Option Nat :=
  (log.zipIdx.filter fun (event, _) => event.reaches stage).getLast?.map Prod.snd

/-- Up to a level all stages have been reached, and of any two the later one
was last reached later. -/
def InOrderUpTo (level : Nat) (log : List StageEvent) : Prop :=
  ∀ a : Stage, 0 < a.rank → a.rank ≤ level → ∃ p, lastReached log a = some p ∧
    ∀ b : Stage, a.rank < b.rank → b.rank ≤ level → ∃ q, lastReached log b = some q ∧ p < q

namespace Call

/-- The stage that a call asks for, if it asks for a single one. -/
def stage : Call → Option Stage
  | .bind _ => some .bound
  | .sizeCells => some .sized
  | .fill => some .filled
  | .sort => some .sorted
  | .group => some .grouped
  | _ => none

/-- The stage that has to be reached before a call, and the name of the
call. -/
def needs : Call → Option (Stage × String)
  | .sizeCells => some (.bound, "estimate_cell_size")
  | .fill => some (.sized, "fill_hash_cells")
  | .sort => some (.filled, "sort_hash_cells")
  | .group => some (.sorted, "count_collision_per_cell")
  | .listPairs => some (.grouped, "create_collision_pair_list")
  | .visitPairs => some (.grouped, "for_each_pair")
  | _ => none

/-- The calls that make up a call. -/
def parts : Call → List Call
  | .build source => [.bind source, .sizeCells, .fill, .sort, .group]
  | call => [call]

/-- What a call leaves in a log. -/
def event (memory : Memory) (call : Call) (s : Session) : List StageEvent :=
  (call.stage.map (⟨·, (call.perform memory s).1⟩)).toList

/-- Makes calls one after another until one fails. Returns what they leave
in a log, and the session. -/
def performUntil (memory : Memory) : List Call → Session → List StageEvent × Session
  | [], s => ([], s)
  | call :: calls, s =>
    match call.perform memory s with
    | (.ok _, t) => (call.event memory s ++ (performUntil memory calls t).1, (performUntil memory calls t).2)
    | (.error _, t) => (call.event memory s, t)

/-- The calls of stages that a call comes to, with their outcomes. -/
def log (memory : Memory) (call : Call) (s : Session) : List StageEvent :=
  (performUntil memory call.parts s).1

end Call

/-- Indexes that calls can lead to, each with the log of all stage calls.
Every call may come with another memory, list of pairs, meter and
journal. -/
inductive Index.Logged : Index → List StageEvent → Prop
  | new : Logged {} []
  | call {s : Session} {log : List StageEvent} (memory : Memory) (call : Call) :
      Logged s.index log → Logged (call.perform memory s).2.index (log ++ call.log memory s)

theorem Index.Logged.next {s t : Session} {log : List StageEvent} (logged : s.index.Logged log) (memory : Memory)
    (call : Call) (leads : (call.perform memory s).2 = t) : t.index.Logged (log ++ call.log memory s) :=
  leads ▸ .call memory call logged

theorem Index.Logged.reached {x : Index} {log : List StageEvent} (logged : x.Logged log) : ∃ last, x.Reached last := by
  induction logged with
  | new => exact ⟨none, .new⟩
  | call memory call _ ih =>
    obtain ⟨last, reached⟩ := ih
    exact ⟨_, reached.call memory call⟩

theorem Stage.rank_injective {a b : Stage} (same : a.rank = b.rank) : a = b := by
  cases a <;> cases b <;> first | rfl | cases same

section Logs

variable {log : List StageEvent} {event : StageEvent} {stage : Stage} {level : Nat}

theorem levelAfter_concat (admitted : event.admitted = true) : levelAfter (log ++ [event]) = event.level := by
  simp [levelAfter, List.filter_append, admitted]

theorem levelAfter_concat_of_not (refused : event.admitted = false) : levelAfter (log ++ [event]) = levelAfter log := by
  simp [levelAfter, List.filter_append, refused]

theorem lastReached_concat :
    lastReached (log ++ [event]) stage = if event.reaches stage then some log.length else lastReached log stage := by
  rw [lastReached, List.zipIdx_append, List.filter_append]
  cases reached : event.reaches stage <;> simp [reached, lastReached]

theorem lastReached_lt {p : Nat} (last : lastReached log stage = some p) : p < log.length := by
  obtain ⟨⟨event, p⟩, found, rfl⟩ := Option.map_eq_some_iff.1 last
  exact List.snd_lt_of_mem_zipIdx (List.mem_of_mem_filter (List.mem_of_getLast? found))

namespace InOrderUpTo

theorem nothing : InOrderUpTo 0 log := fun _ positive none => by omega

/-- What failed or was turned away has no effect on an order that does not
go further than before. -/
theorem concat_of_error (ordered : InOrderUpTo level log) (failed : event.outcome.isOk = false) {lower : Nat}
    (within : lower ≤ level) : InOrderUpTo lower (log ++ [event]) := by
  have same (stage : Stage) : lastReached (log ++ [event]) stage = lastReached log stage := by
    rw [lastReached_concat, if_neg (by simp [StageEvent.reaches, failed])]
  intro a positive reached
  obtain ⟨p, last, later⟩ := ordered a positive (Nat.le_trans reached within)
  refine ⟨p, (same a).trans last, fun b above reached => ?_⟩
  rw [same b]
  exact later b above (Nat.le_trans reached within)

/-- A stage that is reached next stands behind all that were reached before
it. -/
theorem concat_of_ok (ordered : InOrderUpTo level log) (succeeded : event.outcome.isOk = true)
    (next : event.stage.rank ≤ level + 1) : InOrderUpTo event.stage.rank (log ++ [event]) := by
  have newest : lastReached (log ++ [event]) event.stage = some log.length := by
    rw [lastReached_concat, if_pos (by simp [StageEvent.reaches, succeeded])]
  have older {stage : Stage} (below : stage.rank < event.stage.rank) :
      lastReached (log ++ [event]) stage = lastReached log stage := by
    have other : event.stage ≠ stage := fun same => by simp [same] at below
    rw [lastReached_concat, if_neg (by simp [StageEvent.reaches, other])]
  intro a positive reached
  by_cases below : a.rank < event.stage.rank
  · obtain ⟨p, last, later⟩ := ordered a positive (by omega)
    refine ⟨p, (older below).trans last, fun b above reached => ?_⟩
    by_cases inner : b.rank < event.stage.rank
    · rw [older inner]
      exact later b above (by omega)
    · obtain rfl := Stage.rank_injective (Nat.le_antisymm reached (Nat.not_lt.1 inner))
      exact ⟨_, newest, lastReached_lt last⟩
  · obtain rfl := Stage.rank_injective (Nat.le_antisymm reached (Nat.not_lt.1 below))
    exact ⟨_, newest, fun b above reached => by omega⟩

end InOrderUpTo

end Logs

theorem Memory.Denies.isOutOfOrder {memory : Memory} {e : Failure} (denied : memory.Denies e) :
    e.isOutOfOrder = false := by
  obtain ⟨label, size, _, rfl⟩ := denied
  rfl

namespace Index

theorem exists_setting_of_sizeRefusal {requested : Float32} {radii : List Float32} {r : Refusal}
    (refused : sizeRefusal requested radii = some r) : ∃ error, r = .setting error := by
  unfold sizeRefusal automaticRefusal at refused
  split at refused
  · exact ⟨_, (Option.some.inj refused).symm⟩
  · simp only [Option.ite_none_left_eq_some, Option.ite_none_right_eq_some, Option.some.injEq] at refused
    exact ⟨_, refused.2.2.2.symm⟩

theorem exists_setting_of_fillRefusal {origin : Option (Vec Float32)} {g : Grid Float32} {objects : Nat} {r : Refusal}
    (refused : fillRefusal origin g objects = some r) : ∃ error, r = .setting error := by
  unfold fillRefusal at refused
  split at refused
  · cases refused
  · split at refused
    · exact ⟨_, (Option.some.inj refused).symm⟩
    · split at refused
      · cases refused
      · exact ⟨_, (Option.some.inj refused).symm⟩

theorem isOutOfOrder_of_bindRefusal {spheres : List (Sphere Float32)} {r : Refusal}
    (refused : bindRefusal spheres = some r) : (Failure.refused r).isOutOfOrder = false := by
  unfold bindRefusal at refused
  split at refused
  · obtain rfl := Option.some.inj refused
    rfl
  · obtain ⟨i, _, rfl⟩ := Option.map_eq_some_iff.1 refused
    rfl

theorem isOutOfOrder_of_sizeRefusal {requested : Float32} {radii : List Float32} {r : Refusal}
    (refused : sizeRefusal requested radii = some r) : (Failure.refused r).isOutOfOrder = false := by
  obtain ⟨error, rfl⟩ := exists_setting_of_sizeRefusal refused
  rfl

theorem isOutOfOrder_of_fillRefusal {origin : Option (Vec Float32)} {g : Grid Float32} {objects : Nat} {r : Refusal}
    (refused : fillRefusal origin g objects = some r) : (Failure.refused r).isOutOfOrder = false := by
  obtain ⟨error, rfl⟩ := exists_setting_of_fillRefusal refused
  rfl

theorem isOutOfOrder_of_buildRefusal {x : Index} {spheres : List (Sphere Float32)} {r : Refusal}
    (refused : x.buildRefusal spheres = some r) : (Failure.refused r).isOutOfOrder = false := by
  unfold buildRefusal at refused
  rw [Option.or_eq_some_iff, Option.or_eq_some_iff] at refused
  rcases refused with bound | ⟨_, sized | ⟨_, filled⟩⟩
  · exact isOutOfOrder_of_bindRefusal bound
  · exact isOutOfOrder_of_sizeRefusal sized
  · exact isOutOfOrder_of_fillRefusal filled

end Index

/-- Stages fail for want of memory or with a complaint about their input,
and neither is about their order. -/
theorem Memory.isOutOfOrder_of_reason {memory : Memory} {e : Failure} {complaint : Option Refusal}
    (timely : ∀ r, complaint = some r → (Failure.refused r).isOutOfOrder = false)
    (reason : memory.Denies e ∨ ∃ r, complaint = some r ∧ e = .refused r) : e.isOutOfOrder = false := by
  rcases reason with denied | ⟨r, refused, rfl⟩
  · exact denied.isOutOfOrder
  · exact timely r refused

namespace Call

variable {memory : Memory} {s : Session} {last : Option (Grid Float32)}

/-- A stage was reached, or the index fell back to the one below it. Calls
that ask for no stage leave it. -/
def Settles (call : Call) (s : Session) (succeeded : Bool) (t : Session) : Prop :=
  t.index.stage.rank =
    match call.stage with
    | some stage => if succeeded then stage.rank else stage.rank - 1
    | none => s.index.stage.rank

theorem perform_of_early {call : Call} {needed : Stage} {operation : String}
    (needs : call.needs = some (needed, operation)) (early : s.index.stage.rank < needed.rank) :
    call.perform memory s = (.error (.refused (.outOfOrder needed.producer operation)), s) := by
  refine Leads.run_eq_error ?_
  cases call <;> cases needs <;>
    · rw [run, Leads.bind_iff]
      exact Index.leads_requireStage_early early ⟨rfl, rfl⟩

/-- A call that does not come too early is not turned away. -/
theorem leads_of_ready (memory : Memory) {call : Call} (single : call.parts = [call]) (kept : s.index.Kept last)
    (ready : ∀ needed operation, call.needs = some (needed, operation) → needed.rank ≤ s.index.stage.rank) :
    Leads (call.run memory) s (fun _ t => call.Settles s true t)
      fun e t => e.isOutOfOrder = false ∧ call.Settles s false t := by
  cases call with
  | build source => cases single
  | bind source =>
    rw [run, Leads.bind_iff]
    exact Index.leads_bind (fun _ _ _ _ _ => rfl) fun e reason _ _ _ =>
      ⟨Memory.isOutOfOrder_of_reason (fun _ => Index.isOutOfOrder_of_bindRefusal) reason, rfl⟩
  | sizeCells =>
    have bound := kept.bound (ready _ _ rfl)
    rw [run, Leads.bind_iff]
    exact Index.leads_sizeCells (ready _ _ rfl) bound.radii ((List.length_map _).trans bound.count)
      (fun _ _ => rfl) fun r refused _ => ⟨Index.isOutOfOrder_of_sizeRefusal refused, rfl⟩
  | fill =>
    have bound := kept.bound (Nat.le_trans (by decide) (ready _ _ rfl))
    rw [run, Leads.bind_iff]
    exact Index.leads_fill (ready _ _ rfl) rfl bound.count rfl (fun _ _ _ _ _ _ _ => rfl) fun e reason _ _ _ _ _ =>
      ⟨Memory.isOutOfOrder_of_reason (fun _ => Index.isOutOfOrder_of_fillRefusal) reason, rfl⟩
  | sort =>
    obtain ⟨g, rfl, recorded⟩ := kept.recorded (ready _ _ rfl)
    rw [run, Leads.bind_iff]
    exact Index.leads_sort (ready _ _ rfl) recorded.entries recorded.keys
      (Nat.le_of_lt (Index.length_allSlots_lt recorded.few)) (fun _ _ _ _ _ => rfl) fun e denied _ _ _ =>
      ⟨denied.isOutOfOrder, rfl⟩
  | group =>
    obtain ⟨g, rfl, sorted⟩ := kept.sorted (ready _ _ rfl)
    rw [run, Leads.bind_iff]
    exact Index.leads_group (ready _ _ rfl) (Index.length_allSlots_lt sorted.few) sorted.sortedKeys
      (fun _ _ _ _ _ _ _ _ _ => rfl) fun e denied _ _ _ _ _ => ⟨denied.isOutOfOrder, rfl⟩
  | listPairs =>
    obtain ⟨g, rfl, built⟩ := kept.built (Index.stage_eq_grouped (ready _ _ rfl))
    rw [run, Leads.bind_iff]
    exact Index.leads_listing built (fun _ _ _ _ _ _ _ _ => rfl) fun e denied _ _ _ _ _ _ =>
      ⟨denied.isOutOfOrder, rfl⟩
  | visitPairs =>
    obtain ⟨g, rfl, built⟩ := kept.built (Index.stage_eq_grouped (ready _ _ rfl))
    rw [run, Leads.bind_iff]
    exact (Index.leads_visitPairs built).2 rfl
  | _ => rfl

theorem perform_of_ready (memory : Memory) {call : Call} (single : call.parts = [call]) (kept : s.index.Kept last)
    (ready : ∀ needed operation, call.needs = some (needed, operation) → needed.rank ≤ s.index.stage.rank) :
    (∀ e, (call.perform memory s).1 = .error e → e.isOutOfOrder = false) ∧
      call.Settles s (call.perform memory s).1.isOk (call.perform memory s).2 := by
  rcases (leads_of_ready memory single kept ready).cases with
    ⟨reply, outcome, settles⟩ | ⟨e, outcome, timely, settles⟩
  · have outcome : (call.perform memory s).1 = .ok reply := outcome
    rw [outcome]
    exact ⟨nofun, settles⟩
  · have outcome : (call.perform memory s).1 = .error e := outcome
    rw [outcome]
    exact ⟨fun _ same => Except.error.inj same ▸ timely, settles⟩

theorem rank_of_ready {call : Call} {stage : Stage} (asks : call.stage = some stage)
    (ready : ∀ needed operation, call.needs = some (needed, operation) → needed.rank ≤ s.index.stage.rank) :
    stage.rank ≤ s.index.stage.rank + 1 := by
  cases call <;> cases asks
  case bind => exact Nat.le_add_left 1 _
  all_goals exact Nat.succ_le_succ (ready _ _ rfl)

end Call

/-- The stage of an index is what its log amounts to, and up to there the
log is in order. -/
structure Index.Follows (x : Index) (log : List StageEvent) : Prop where
  level : x.stage.rank = levelAfter log
  order : InOrderUpTo x.stage.rank log

namespace Call

variable {memory : Memory} {s : Session} {last : Option (Grid Float32)} {log : List StageEvent}

theorem follows_of_ready {call : Call} (single : call.parts = [call]) (kept : s.index.Kept last)
    (ready : ∀ needed operation, call.needs = some (needed, operation) → needed.rank ≤ s.index.stage.rank)
    (follows : s.index.Follows log) : (call.perform memory s).2.index.Follows (log ++ call.event memory s) := by
  obtain ⟨timely, settles⟩ := perform_of_ready memory single kept ready
  unfold Settles at settles
  unfold event
  cases asks : call.stage with
  | none =>
    rw [asks] at settles
    rw [Option.map_none, Option.toList_none, List.append_nil]
    exact ⟨settles.trans follows.level, settles ▸ follows.order⟩
  | some stage =>
    have next := rank_of_ready asks ready
    rw [asks] at settles
    rw [Option.map_some, Option.toList_some]
    cases outcome : (call.perform memory s).1 with
    | ok reply =>
      rw [outcome] at settles
      have reached : (call.perform memory s).2.index.stage.rank = stage.rank := settles
      have succeeded : (StageEvent.mk stage (.ok reply)).outcome.isOk = true := rfl
      have admitted : (StageEvent.mk stage (.ok reply)).admitted = true := rfl
      exact ⟨reached.trans (levelAfter_concat admitted).symm, reached ▸ follows.order.concat_of_ok succeeded next⟩
    | error e =>
      rw [outcome] at settles
      have missed : (call.perform memory s).2.index.stage.rank = stage.rank - 1 := settles
      have admitted : StageEvent.admitted ⟨stage, .error e⟩ = true := by
        simp [StageEvent.admitted, timely e outcome]
      exact ⟨missed.trans (levelAfter_concat admitted).symm, follows.order.concat_of_error rfl (by omega)⟩

/-- One call after another, an index follows its log. -/
theorem follows_event (memory : Memory) {call : Call} (single : call.parts = [call]) (kept : s.index.Kept last)
    (follows : s.index.Follows log) : (call.perform memory s).2.index.Follows (log ++ call.event memory s) := by
  by_cases ready : ∀ needed operation, call.needs = some (needed, operation) → needed.rank ≤ s.index.stage.rank
  · exact follows_of_ready single kept ready follows
  · simp only [not_forall, Nat.not_le] at ready
    obtain ⟨needed, operation, needs, early⟩ := ready
    rw [event, perform_of_early needs early]
    cases call.stage with
    | none => exact (List.append_nil log).symm ▸ follows
    | some stage =>
      exact ⟨follows.level.trans (levelAfter_concat_of_not rfl).symm,
        follows.order.concat_of_error rfl (Nat.le_refl _)⟩

theorem follows_performUntil {calls : List Call} (single : ∀ call ∈ calls, call.parts = [call])
    (kept : s.index.Kept last) (follows : s.index.Follows log) :
    (performUntil memory calls s).2.index.Follows (log ++ (performUntil memory calls s).1) := by
  induction calls generalizing s last log with
  | nil => exact (List.append_nil log).symm ▸ follows
  | cons call calls ih =>
    have first := follows_event memory (single call List.mem_cons_self) kept follows
    have after := call.kept_perform memory kept
    rw [performUntil]
    split
    · rename_i run
      rw [run] at first after
      rw [← List.append_assoc]
      exact ih (fun call member => single call (List.mem_cons_of_mem _ member)) after first
    · rename_i run
      rw [run] at first
      exact first

theorem parts_of_mem_parts {call part : Call} (member : part ∈ call.parts) : part.parts = [part] := by
  cases call <;> simp only [parts, List.mem_cons, List.not_mem_nil, or_false] at member
  case build =>
    rcases member with rfl | rfl | rfl | rfl | rfl <;> rfl
  all_goals
    subst member
    rfl

theorem run_bind {α β : Type} (work : Action α) (next : α → Action β) (s : Session) :
    (work >>= next).run.run s =
      match work.run.run s with
      | (.ok a, t) => (next a).run.run t
      | (.error e, t) => (.error e, t) := by
  have run : (work >>= next).run.run s =
      (ExceptT.bindCont next (work.run.run s).1 : StateM Session _).run (work.run.run s).2 := rfl
  rw [run]
  rcases work.run.run s with ⟨_ | _, t⟩ <;> rfl

theorem performUntil_cons {calls : List Call} {call : Call} {work rest : Action Unit}
    (run : call.run memory = work >>= fun _ => pure .done)
    (same : ∀ s, (performUntil memory calls s).2 = (rest.run.run s).2) (s : Session) :
    (performUntil memory (call :: calls) s).2 = ((work >>= fun _ => rest).run.run s).2 := by
  rw [performUntil, perform, run, run_bind, run_bind]
  rcases work.run.run s with ⟨_ | _, t⟩
  · rfl
  · exact same t

/-- A call does what its parts do. -/
theorem performUntil_parts (memory : Memory) (call : Call) (s : Session) :
    (performUntil memory call.parts s).2 = (call.perform memory s).2 := by
  have single : (performUntil memory [call] s).2 = (call.perform memory s).2 := by
    rw [performUntil]
    split
    · rename_i run
      rw [run]
      rfl
    · rename_i run
      rw [run]
  cases call with
  | build source =>
    have done : ((build source).perform memory s).2 = ((Index.build memory source).run.run s).2 := by
      rw [perform, run, run_bind]
      rcases (Index.build memory source).run.run s with ⟨_ | _, t⟩ <;> rfl
    rw [done]
    refine performUntil_cons rfl (performUntil_cons rfl (performUntil_cons rfl (performUntil_cons rfl fun t => ?_))) s
    rw [performUntil, perform, run, run_bind]
    rcases (Index.group memory).run.run t with ⟨_ | _, u⟩ <;> rfl
  | _ => exact single

end Call

theorem Index.Logged.follows {x : Index} {log : List StageEvent} (logged : x.Logged log) : x.Follows log := by
  induction logged with
  | new => exact ⟨rfl, .nothing⟩
  | @call s log memory call logged ih =>
    obtain ⟨last, reached⟩ := logged.reached
    rw [← call.performUntil_parts]
    exact Call.follows_performUntil (fun _ => Call.parts_of_mem_parts) reached.kept ih

namespace Call

variable {memory : Memory} {s : Session} {last : Option (Grid Float32)}

/-- The calls that are turned away are those that come too early. -/
theorem outOfOrder_iff {call : Call} {needed : Stage} {operation : String}
    (needs : call.needs = some (needed, operation)) (kept : s.index.Kept last) :
    (∃ expected found, (call.perform memory s).1 = .error (.refused (.outOfOrder expected found))) ↔
      s.index.stage.rank < needed.rank := by
  constructor
  · rintro ⟨expected, found, outcome⟩
    have single : call.parts = [call] := by cases call <;> first | rfl | cases needs
    by_contra late
    have ready : ∀ stage operation, call.needs = some (stage, operation) → stage.rank ≤ s.index.stage.rank := by
      intro stage operation same
      cases needs.symm.trans same
      exact Nat.not_lt.1 late
    cases (perform_of_ready memory single kept ready).1 _ outcome
  · exact fun early => ⟨_, _, congrArg Prod.fst (perform_of_early needs early)⟩

theorem timely_of_needs {call : Call} (needs : call.needs = none) (kept : s.index.Kept last) (expected found : String) :
    (call.perform memory s).1 ≠ .error (.refused (.outOfOrder expected found)) := by
  intro outcome
  by_cases single : call.parts = [call]
  · have ready : ∀ stage operation, call.needs = some (stage, operation) → stage.rank ≤ s.index.stage.rank :=
      fun _ _ wrong => by cases needs.symm.trans wrong
    cases (perform_of_ready memory single kept ready).1 _ outcome
  · cases call with
    | build source =>
      rcases @perform_build memory source s with ⟨done, _⟩ | ⟨⟨e, reason, failed⟩, _⟩
      · cases done.symm.trans outcome
      · cases failed.symm.trans outcome
        cases Memory.isOutOfOrder_of_reason (fun _ => Index.isOutOfOrder_of_buildRefusal) reason
    | _ => exact single rfl

end Call

theorem Index.run_visitPairs_early {s : Session} (early : s.index.stage.rank < Stage.grouped.rank) {σ : Type}
    (visit : σ → Pair → σ) (start : σ) :
    (visitPairs visit start).run.run s =
      (.error (.refused (.outOfOrder Stage.grouped.producer "for_each_pair")), s) :=
  Leads.run_eq_error (leads_requireStage_early early ⟨rfl, rfl⟩)

/-- Whatever calls an index has been through, it turns away exactly the
calls that need a stage above what its log amounts to. Such a call changes
nothing. A list or visit of pairs is only ever had from stages that were
last reached in their order. -/
theorem Index.Logged.stage_order {s : Session} {log : List StageEvent} (logged : s.index.Logged log) :
    (∀ memory (call : Call) needed operation, call.needs = some (needed, operation) →
      ((∃ expected found, (call.perform memory s).1 = .error (.refused (.outOfOrder expected found))) ↔
        levelAfter log < needed.rank) ∧
      (levelAfter log < needed.rank →
        call.perform memory s = (.error (.refused (.outOfOrder needed.producer operation)), s))) ∧
    (∀ memory (call : Call), call.needs = none → ∀ expected found,
      (call.perform memory s).1 ≠ .error (.refused (.outOfOrder expected found))) ∧
    (∀ (σ : Type) (visit : σ → Pair → σ) (start : σ),
      (levelAfter log < Stage.grouped.rank → (visitPairs visit start).run.run s =
        (.error (.refused (.outOfOrder Stage.grouped.producer "for_each_pair")), s)) ∧
      (Stage.grouped.rank ≤ levelAfter log → ∃ state, ((visitPairs visit start).run.run s).1 = .ok state)) ∧
    ((∃ memory reply, (Call.listPairs.perform memory s).1 = .ok reply) ∨
        (∃ (σ : Type) (visit : σ → Pair → σ) (start state : σ), ((visitPairs visit start).run.run s).1 = .ok state) →
      ∀ a b : Stage, 0 < a.rank → a.rank < b.rank →
        ∃ p q, lastReached log a = some p ∧ lastReached log b = some q ∧ p < q) := by
  obtain ⟨last, reached⟩ := logged.reached
  have kept := reached.kept
  obtain ⟨level, order⟩ := logged.follows
  rw [← level]
  refine ⟨fun memory call needed operation needs => ⟨Call.outOfOrder_iff needs kept, Call.perform_of_early needs⟩,
    fun memory call needs => Call.timely_of_needs needs kept, fun σ visit start => ⟨?_, ?_⟩, ?_⟩
  · exact fun early => run_visitPairs_early early visit start
  · intro ready
    obtain ⟨g, _, built⟩ := kept.built (stage_eq_grouped ready)
    exact ⟨_, Call.run_visitPairs built visit start⟩
  · intro delivered a b positive above
    have grouped : Stage.grouped.rank ≤ s.index.stage.rank := by
      by_contra early
      rw [Nat.not_le] at early
      rcases delivered with ⟨memory, reply, ok⟩ | ⟨σ, visit, start, state, ok⟩
      · have refused : Call.listPairs.perform memory s = _ := Call.perform_of_early rfl early
        cases (congrArg Prod.fst refused).symm.trans ok
      · cases (congrArg Prod.fst (run_visitPairs_early early visit start)).symm.trans ok
    have most : b.rank ≤ Stage.grouped.rank := by cases b <;> decide
    obtain ⟨p, lastA, later⟩ := order a positive (by omega)
    obtain ⟨q, lastB, before⟩ := later b above (by omega)
    exact ⟨p, q, lastA, lastB, before⟩

/-- A sphere of negative radius takes the row back to where nothing is
bound. Then no pairs are listed, although all stages have been reached
before. -/
theorem Session.row_stage_order : ∃ log t, t = ((Call.bind (.ofList [⟨⟨0, 0, 0⟩, -1⟩])).perform .machine Session.row).2 ∧
    Session.row.index.Logged log ∧ levelAfter log = 5 ∧ lastReached log .grouped = some 4 ∧
    (∃ p q, lastReached log .sized = some p ∧ lastReached log .filled = some q ∧ p < q) ∧
    Call.listPairs.perform .machine t =
      (.error (.refused (.outOfOrder "count_collision_per_cell" "create_collision_pair_list")), t) := by
  have set := Index.Logged.new.next (s := {}) .machine (.setOrigin ⟨0, 0, 0⟩) rfl
  have logged := set.next (t := Session.row) .machine (.build .row) rfl
  have unbound := logged.next .machine (.bind (.ofList [⟨⟨0, 0, 0⟩, -1⟩])) rfl
  obtain ⟨reply, ok⟩ := exists_of_isOk Session.row_lists.2.1
  refine ⟨_, _, rfl, logged, by decide +kernel, by decide +kernel, ?_, ?_⟩
  · exact logged.stage_order.2.2.2 (Or.inl ⟨_, _, ok⟩) .sized .filled (by decide) (by decide)
  · exact (unbound.stage_order.1 .machine .listPairs _ _ rfl).2 (by decide +kernel)

end ContactGrid
