import ContactGrid.Proofs.Refusals
import ContactGrid.Proofs.Traces

namespace ContactGrid

/-- The last `bind` of a trace. -/
def lastBind (trace : List Moment) : Option Moment :=
  (trace.filter fun m => m.call.source?.isSome).getLast?

/-- What is bound, as the last `bind` has left it. -/
inductive Index.BoundBy (x : Index) : Option Moment → Prop
  | never : x.stage = .empty → x.objectCount = 0 → x.spheres.contents = [] → x.BoundBy none
  | taken {m : Moment} {source : Source} {reply : Reply} : m.call = .bind source → m.outcome = .ok reply →
      x.objectCount = source.count → x.spheres.contents = source.toList → x.BoundBy (some m)
  | refused {m : Moment} {source : Source} {e : Failure} : m.call = .bind source → m.outcome = .error e →
      x.stage = .empty → x.objectCount = 0 → BindStop m.memory source m.before.index.spheres e x.spheres →
      x.BoundBy (some m)

theorem Index.BoundBy.empty_of_never {x : Index} (never : x.BoundBy none) : x.stage = .empty := by
  cases never with
  | never empty _ _ => exact empty

theorem Call.eq_bind_of_source? {call : Call} {source : Source} (binds : call.source? = some source) :
    call = .bind source := by
  cases call <;> cases binds
  rfl

section Traces

variable {trace : List Moment} {m : Moment}

theorem lastBind_concat (binds : m.call.source?.isSome = true) : lastBind (trace ++ [m]) = some m := by
  simp [lastBind, List.filter_append, binds]

theorem source?_of_lastBind (none : lastBind (trace ++ [m]) = none) : m.call.source? = .none := by
  cases binds : m.call.source? with
  | none => rfl
  | some source =>
    rw [lastBind_concat (by rw [binds]; rfl)] at none
    cases none

theorem lastBind_concat_of_not (other : m.call.source? = none) : lastBind (trace ++ [m]) = lastBind trace := by
  simp [lastBind, List.filter_append, other]

end Traces

namespace Moment

variable {m : Moment} {last : Option (Grid Float32)}

/-- While nothing is bound, only `bind` gets anywhere. -/
theorem stage_after_of_empty (single : m.call.parts = [m.call]) (other : m.call.source? = none)
    (empty : m.before.index.stage = .empty) : m.after.index.stage = .empty := by
  obtain ⟨memory, call, before⟩ := m
  have early {needed : Stage} (later : 0 < needed.rank) : before.index.stage.rank < needed.rank := by
    rw [empty]
    exact later
  rw [Moment.after]
  cases call with
  | build source => cases single
  | bind source => cases other
  | sizeCells => rwa [Call.perform_of_early rfl (early (by decide))]
  | fill => rwa [Call.perform_of_early rfl (early (by decide))]
  | sort => rwa [Call.perform_of_early rfl (early (by decide))]
  | group => rwa [Call.perform_of_early rfl (early (by decide))]
  | listPairs => rwa [Call.perform_of_early rfl (early (by decide))]
  | visitPairs => rwa [Call.perform_of_early rfl (early (by decide))]
  | _ => exact empty

theorem boundBy_after_bind {source : Source} (binds : m.call = .bind source) : m.after.index.BoundBy (some m) := by
  obtain ⟨memory, call, before⟩ := m
  obtain rfl : call = .bind source := binds
  have leads : Leads ((Call.bind source).run memory) before
      (fun _ t => t.index.objectCount = source.count ∧ t.index.spheres.contents = source.toList)
      fun e t => t.index.stage = .empty ∧ t.index.objectCount = 0 ∧
        Index.BindStop memory source before.index.spheres e t.index.spheres := by
    rw [Call.run, Leads.bind_iff]
    exact Index.leads_bind_or_stop (fun _ _ _ uploaded _ => ⟨source.length_toList, uploaded⟩)
      fun _ _ stop _ _ => ⟨rfl, rfl, stop⟩
  rcases leads.cases with ⟨_, outcome, count, contents⟩ | ⟨_, outcome, empty, none, stop⟩
  · exact .taken rfl outcome count contents
  · exact .refused rfl outcome empty none stop

/-- What is bound stays bound, and what is not stays unbound, until the next
`bind`. -/
theorem boundBy_after (single : m.call.parts = [m.call]) (kept : m.before.index.Kept last)
    (other : m.call.source? = none) {bind : Option Moment} (bound : m.before.index.BoundBy bind) :
    m.after.index.BoundBy bind := by
  have frame := Call.frame_perform m.memory single kept
  have spheres : m.after.index.spheres = m.before.index.spheres := frame.spheres other
  have objects : m.after.index.objectCount = m.before.index.objectCount := frame.objects other
  cases bound with
  | never empty none nothing =>
    exact .never (stage_after_of_empty single other empty) (objects.trans none) (spheres ▸ nothing)
  | taken binds outcome count contents => exact .taken binds outcome (objects.trans count) (spheres ▸ contents)
  | refused binds outcome empty none stop =>
    exact .refused binds outcome (stage_after_of_empty single other empty) (objects.trans none) (spheres ▸ stop)

theorem boundBy_concat (single : m.call.parts = [m.call]) (kept : m.before.index.Kept last) {trace : List Moment}
    (bound : m.before.index.BoundBy (lastBind trace)) : m.after.index.BoundBy (lastBind (trace ++ [m])) := by
  cases binds : m.call.source? with
  | none =>
    rw [lastBind_concat_of_not binds]
    exact m.boundBy_after single kept binds bound
  | some source =>
    rw [lastBind_concat (by rw [binds]; rfl)]
    exact m.boundBy_after_bind (Call.eq_bind_of_source? binds)

end Moment

namespace Index

theorem Traced.boundBy {x : Index} {trace : List Moment} (traced : x.Traced trace) : x.BoundBy (lastBind trace) :=
  traced.holds (motive := fun x trace => x.BoundBy (lastBind trace)) (.never rfl rfl rfl)
    fun m _ _ single kept bound => m.boundBy_concat single kept bound

/-- A source is turned away if it is too long or has a bad radius, whatever
memory there is. -/
theorem refused_of_source {memory : Memory} {source : Source} {s : Session}
    (unusable : maxObjects < source.count ∨ ∃ sphere ∈ source.toList, BadRadius sphere.radius) :
    ∃ r, ((Call.bind source).perform memory s).1 = .error (.refused r) := by
  have complaint : bindRefusal source.toList ≠ none := by
    rcases unusable with many | ⟨sphere, member, bad⟩
    · rw [bindRefusal, if_pos (by rwa [source.length_toList])]
      exact Option.some_ne_none _
    · intro none
      have few := length_le_of_bindRefusal none
      exact (bindRefusal_eq_none_iff few).1 none sphere member bad
  have leads : Leads ((Call.bind source).run memory) s (fun _ _ => False) fun e _ => ∃ r, e = .refused r := by
    rw [Call.run, Leads.bind_iff]
    exact leads_bind (fun accepted _ _ _ _ => complaint accepted) fun e reason _ _ _ => Memory.refused_of_reason reason
  rcases leads.cases with ⟨_, _, impossible⟩ | ⟨e, outcome, r, rfl⟩
  · exact impossible.elim
  · exact ⟨r, outcome⟩

/-- What is left of a source that was turned away: nothing if it is too
long, and all of it if a radius is bad. -/
theorem BindStop.leftover {memory : Memory} {source : Source} {before spheres : Tape (Sphere Float32)} {e : Failure}
    (stop : BindStop memory source before e spheres) :
    (maxObjects < source.count →
      e = .refused (.capacity (slotDemand source.count) "cell records") ∧ spheres = before) ∧
    ∀ i r, e = .refused (.setting (.unusableRadius i r)) → spheres.contents = source.toList ∧
      ∃ sphere, source.toList[i]? = some sphere ∧ sphere.radius = r ∧ BadRadius r := by
  cases stop with
  | many _ => exact ⟨fun _ => ⟨rfl, rfl⟩, nofun⟩
  | denied _ _ few denied =>
    refine ⟨fun many => absurd few (Nat.not_le.2 many), fun i r same => ?_⟩
    obtain ⟨label, size, _, rfl⟩ := denied
    cases same
  | radius i _ few bad contents =>
    refine ⟨fun many => absurd few (Nat.not_le.2 many), fun j r same => ⟨contents, ?_⟩⟩
    cases same
    obtain ⟨sphere, found, bad, _⟩ := badRadius?_eq_some_iff.1 bad
    have radius : (source.toList.map (·.radius)).getD i default = sphere.radius := by
      rw [List.getD_eq_getElem?_getD, List.getElem?_map, found]
      rfl
    exact ⟨sphere, found, radius.symm, radius ▸ bad⟩

end Index

/-- Spheres with a bad radius and spheres beyond the limit are turned away.
From then on there are no objects and no records, and every stage, list and
visit is refused, until another `bind` succeeds. Yet the tape of spheres
shows those with the bad radius, and beyond the limit it still shows the
spheres of an earlier run. Otherwise it shows as many spheres as there are
objects. -/
theorem Index.Traced.turned_away {s : Session} {trace : List Moment} (traced : s.index.Traced trace) :
    (∀ memory (source : Source), maxObjects < source.count ∨ (∃ sphere ∈ source.toList, BadRadius sphere.radius) →
      ∃ r, ((Call.bind source).perform memory s).1 = .error (.refused r)) ∧
    (∀ m source e, lastBind trace = some m → m.call = .bind source → m.outcome = .error e →
      s.index.objectCount = 0 ∧ s.index.records = .ok [] ∧
      (∀ memory (call : Call) needed operation, call.needs = some (needed, operation) →
        call.perform memory s = (.error (.refused (.outOfOrder needed.producer operation)), s)) ∧
      (∀ (σ : Type) (visit : σ → Pair → σ) (start : σ), (visitPairs visit start).run.run s =
        (.error (.refused (.outOfOrder Stage.grouped.producer "for_each_pair")), s)) ∧
      (maxObjects < source.count → e = .refused (.capacity (slotDemand source.count) "cell records") ∧
        s.index.spheres = m.before.index.spheres) ∧
      ∀ i r, e = .refused (.setting (.unusableRadius i r)) → s.index.spheres.contents = source.toList ∧
        ∃ sphere, source.toList[i]? = some sphere ∧ sphere.radius = r ∧ BadRadius r) ∧
    (∀ m source reply, lastBind trace = some m → m.call = .bind source → m.outcome = .ok reply →
      s.index.objectCount = source.count ∧ s.index.spheres.contents = source.toList) ∧
    (lastBind trace = none → s.index.objectCount = 0 ∧ s.index.spheres.contents = []) := by
  have bound := traced.boundBy
  obtain ⟨last, reached⟩ := traced.reached
  refine ⟨fun memory source => refused_of_source, fun m source e latest binds failed => ?_,
    fun m source reply latest binds outcome => ?_, fun latest => ?_⟩
  · rw [latest] at bound
    cases bound with
    | taken _ outcome => cases failed.symm.trans outcome
    | refused binds' failed' empty none stop =>
      cases binds.symm.trans binds'
      cases failed.symm.trans failed'
      have early {needed : Stage} (later : 0 < needed.rank) : s.index.stage.rank < needed.rank := by
        rw [empty]
        exact later
      have unbuilt : s.index.bucketCount = 0 := reached.kept.ungrouped (by rw [empty]; decide)
      refine ⟨none, records_of_ungrouped unbuilt, fun memory call needed operation needs => ?_,
        fun σ visit start => run_visitPairs_early (early (by decide)) visit start, stop.leftover⟩
      refine Call.perform_of_early needs (early ?_)
      cases call <;> cases needs <;> decide
  · rw [latest] at bound
    cases bound with
    | taken binds' _ count contents =>
      cases binds.symm.trans binds'
      exact ⟨count, contents⟩
    | refused _ failed => cases outcome.symm.trans failed
  · rw [latest] at bound
    cases bound with
    | never _ none contents => exact ⟨none, contents⟩

/-- After the row a sphere of negative radius is turned away. Nothing is
bound then, and still the sphere is in the tape. -/
theorem Session.row_turned_away : ∃ trace t, Session.row.index.Traced trace ∧
    t = ((Call.bind (.ofList [⟨⟨0, 0, 0⟩, -1⟩])).perform .machine Session.row).2 ∧ t.index.objectCount = 0 ∧
    t.index.records = .ok [] ∧ t.index.spheres.contents = [⟨⟨0, 0, 0⟩, -1⟩] ∧
    Call.sizeCells.perform .machine t = (.error (.refused (.outOfOrder "bind" "estimate_cell_size")), t) := by
  obtain ⟨_, reached⟩ := Session.row_reached
  obtain ⟨trace, built⟩ := reached.traced
  have unbound := built.next .machine (.bind (.ofList [⟨⟨0, 0, 0⟩, -1⟩])) rfl rfl
  have failed : (Moment.mk .machine (.bind (.ofList [⟨⟨0, 0, 0⟩, -1⟩])) Session.row).outcome =
      .error (.refused (.setting (.unusableRadius 0 (-1)))) := error_of_map (f := fun _ => ()) (by decide +kernel)
  obtain ⟨none, records, refused, _, _, leftover⟩ := unbound.turned_away.2.1 _ _ _ (lastBind_concat rfl) rfl failed
  obtain ⟨contents, _⟩ := leftover 0 (-1) rfl
  exact ⟨_, _, built, rfl, none, records, contents, refused .machine .sizeCells _ _ rfl⟩

end ContactGrid
