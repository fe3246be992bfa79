import ContactGrid.Proofs.Settings

namespace ContactGrid

namespace Call

/-- The outcomes of some calls, each made whatever became of those before
it, and the session that they leave. -/
def performAll (memory : Memory) : List Call → Session → List (Except Failure Reply) × Session
  | [], s => ([], s)
  | call :: calls, s =>
    let (outcome, t) := call.perform memory s
    let (outcomes, u) := performAll memory calls t
    (outcome :: outcomes, u)

theorem perform_build {memory : Memory} {source : Source} {s : Session} :
    ((Call.build source).perform memory s).1 = .ok .done ∧ s.index.buildRefusal source.toList = none ∧
        ((Call.build source).perform memory s).2.index.Built (s.index.runGrid source.toList) source.toList ∨
      (∃ e, (memory.Denies e ∨ ∃ r, s.index.buildRefusal source.toList = some r ∧ e = .refused r) ∧
        ((Call.build source).perform memory s).1 = .error e) ∧
          ((Call.build source).perform memory s).2.index.stage ≠ .grouped := by
  have leads : Leads ((Call.build source).run memory) s
      (fun reply t => reply = .done ∧ s.index.buildRefusal source.toList = none ∧
        t.index.Built (s.index.runGrid source.toList) source.toList)
      fun e t => (memory.Denies e ∨ ∃ r, s.index.buildRefusal source.toList = some r ∧ e = .refused r) ∧
        t.index.stage ≠ .grouped := by
    rw [Call.run, Leads.bind_iff]
    exact Index.leads_build (fun accepted t built _ => ⟨rfl, accepted, built⟩) fun e reason t early => ⟨reason, early⟩
  rcases leads.cases with ⟨reply, outcome, rfl, accepted, built⟩ | ⟨e, outcome, reason, early⟩
  · exact Or.inl ⟨outcome, accepted, built⟩
  · exact Or.inr ⟨⟨e, reason, outcome⟩, early⟩

theorem perform_listPairs {memory : Memory} {s : Session} {g : Grid Float32} {spheres : List (Sphere Float32)}
    (built : s.index.Built g spheres) :
    (Call.listPairs.perform memory s).1 = .ok .done ∧ (Call.listPairs.perform memory s).2.index.Built g spheres ∧
        (Call.listPairs.perform memory s).2.index.pairCount = (g.pairList spheres).length ∧
        (Call.listPairs.perform memory s).2.pairs.contents = g.pairList spheres ∨
      ∃ e, memory.Denies e ∧ (Call.listPairs.perform memory s).1 = .error e := by
  have leads : Leads (Call.listPairs.run memory) s
      (fun reply t => reply = .done ∧ t.index.Built g spheres ∧ t.index.pairCount = (g.pairList spheres).length ∧
        t.pairs.contents = g.pairList spheres)
      fun e _ => memory.Denies e := by
    rw [Call.run, Leads.bind_iff]
    exact Index.leads_listPairs built (fun t kept count contents => ⟨rfl, kept, count, contents⟩)
      fun e denied _ => denied
  rcases leads.cases with ⟨reply, outcome, rfl, listed⟩ | ⟨e, outcome, denied⟩
  · exact Or.inl ⟨outcome, listed⟩
  · exact Or.inr ⟨e, denied, outcome⟩

theorem perform_listPairs_of_early {memory : Memory} {s : Session} (early : s.index.stage ≠ .grouped) :
    (Call.listPairs.perform memory s).1 =
      .error (.refused (.outOfOrder Stage.grouped.producer "create_collision_pair_list")) := by
  have rank : s.index.stage.rank < Stage.grouped.rank := by
    cases stage : s.index.stage <;> simp_all [Stage.rank]
  refine congrArg Prod.fst (Leads.run_eq_error (t := s) ?_)
  rw [Call.run, Leads.bind_iff]
  exact Index.leads_requireStage_early rank ⟨rfl, rfl⟩

theorem stage_of_listPairs {memory : Memory} {s : Session}
    (accepted : ∀ needed operation,
      (Call.listPairs.perform memory s).1 ≠ .error (.refused (.outOfOrder needed operation))) :
    s.index.stage = .grouped := by
  by_contra early
  exact accepted _ _ (perform_listPairs_of_early early)

end Call

namespace Config

/-- The calls that set a session up, build from some spheres and list the
pairs. -/
def rerun (c : Config) (source : Source) : List Call :=
  (c.plan source).calls ++ [.listPairs]

/-- What these calls come to when the memory grants everything. -/
def outcomes (c : Config) (spheres : List (Sphere Float32)) : List (Except Failure Reply) :=
  List.replicate 4 (.ok .done) ++
    match c.refusal spheres with
    | none => [.ok .done, .ok .done]
    | some r =>
      [.error (.refused r), .error (.refused (.outOfOrder Stage.grouped.producer "create_collision_pair_list"))]

theorem performAll_rerun (c : Config) (source : Source) (s : Session) :
    (Call.performAll .endless (c.rerun source) s).1 = c.outcomes source.toList ∧
      (c.refusal source.toList = none →
        (Call.performAll .endless (c.rerun source) s).2.index.Built (c.grid source.toList) source.toList ∧
        (Call.performAll .endless (c.rerun source) s).2.index.pairCount =
          ((c.grid source.toList).pairList source.toList).length ∧
        (Call.performAll .endless (c.rerun source) s).2.pairs.contents =
          (c.grid source.toList).pairList source.toList) := by
  -- The four settings are made at once, so that just two calls remain to be
  -- looked at.
  generalize set : ({ s with index := c.on s.index } : Session) = t
  have run : Call.performAll .endless (c.rerun source) s =
      (List.replicate 4 (.ok .done) ++ [((Call.build source).perform .endless t).1,
        (Call.listPairs.perform .endless ((Call.build source).perform .endless t).2).1],
        (Call.listPairs.perform .endless ((Call.build source).perform .endless t).2).2) := set ▸ rfl
  have index : t.index = c.on s.index := set ▸ rfl
  have building := @Call.perform_build .endless source t
  rw [index, c.buildRefusal_on] at building
  rw [run]
  unfold outcomes
  rcases building with ⟨done, accepted, built⟩ | ⟨⟨e, denied | ⟨r, refused, rfl⟩, failed⟩, early⟩
  · rcases Call.perform_listPairs (c.built_on built) with ⟨done', listed⟩ | ⟨e, denied, _⟩
    · rw [accepted, done, done']
      exact ⟨rfl, fun _ => listed⟩
    · exact absurd denied (Memory.not_endless_denies e)
  · exact absurd denied (Memory.not_endless_denies e)
  · rw [refused, failed, Call.perform_listPairs_of_early early]
    exact ⟨rfl, nofun⟩

end Config

/-- A session that has been in use gives the same results as a new one.
Whatever its tapes, counters and settings hold, once it is set up anew every
call comes to the same, and if the calls succeed the records, the summary
and the list of pairs are the same. -/
theorem rerun_eq_fresh (s : Session) (groups : GroupSizes) (origin : Vec Float32) (hash : CellHash)
    (requestedSize : Float32) (source : Source) :
    let calls := [.setGroups groups, .setOrigin origin, .setHash hash, .setCellSize requestedSize, .build source,
      .listPairs]
    let reused := Call.performAll .endless calls s
    let fresh := Call.performAll .endless calls {}
    reused.1 = fresh.1 ∧
      ((∀ outcome ∈ fresh.1, ∃ reply, outcome = .ok reply) →
        reused.2.pairs.contents = fresh.2.pairs.contents ∧
        ∃ records summary, reused.2.index.records = .ok records ∧ fresh.2.index.records = .ok records ∧
          reused.2.index.summary = .ok summary ∧ fresh.2.index.summary = .ok summary) := by
  intro calls reused fresh
  have fromUsed := Config.performAll_rerun ⟨some requestedSize, origin, hash, groups⟩ source s
  have fromNew := Config.performAll_rerun ⟨some requestedSize, origin, hash, groups⟩ source {}
  have same : reused.1 = fresh.1 := fromUsed.1.trans fromNew.1.symm
  refine ⟨same, fun succeeded => ?_⟩
  have accepted : Config.refusal ⟨some requestedSize, origin, hash, groups⟩ source.toList = none := by
    cases refused : Config.refusal ⟨some requestedSize, origin, hash, groups⟩ source.toList with
    | none => rfl
    | some r =>
      have outcomes : fresh.1 = _ := fromNew.1
      rw [outcomes, Config.outcomes, refused] at succeeded
      obtain ⟨reply, wrong⟩ := succeeded (.error (.refused r)) (by simp)
      cases wrong
  obtain ⟨builtU, countU, pairsU⟩ := fromUsed.2 accepted
  obtain ⟨builtN, countN, pairsN⟩ := fromNew.2 accepted
  refine ⟨pairsU.trans pairsN.symm, _, _, builtU.records_eq_ok, builtN.records_eq_ok, builtU.summary_eq_ok, ?_⟩
  rw [countU, ← countN]
  exact builtN.summary_eq_ok

end ContactGrid
