import ContactGrid.Proofs.Accounting

namespace ContactGrid

namespace Call

variable {memory : Memory} {source : Source} {s t u : Session} {reply : Reply}

theorem meter_of_build (performed : (Call.build source).perform memory s = (.ok reply, t)) :
    t.meter = Index.buildMeter s source.toList := by
  have leads : Leads ((Call.build source).run memory) s (fun _ t => t.meter = Index.buildMeter s source.toList)
      fun _ _ => True := by
    rw [run, Leads.bind_iff]
    exact Index.leads_build_counted (fun _ _ _ _ counted => counted) fun _ _ _ _ => trivial
  exact (Leads.iff_of_ok performed).1 leads

theorem meter_of_listPairs {g : Grid Float32} {spheres : List (Sphere Float32)} (built : t.index.Built g spheres)
    (performed : Call.listPairs.perform memory t = (.ok reply, u)) : u.meter = Index.listingMeter t.meter spheres := by
  have leads : Leads (Call.listPairs.run memory) t (fun _ u => u.meter = Index.listingMeter t.meter spheres)
      fun _ _ => True := by
    rw [run, Leads.bind_iff]
    exact Index.leads_listing built (fun _ _ _ _ _ _ _ _ => rfl) fun _ _ _ _ _ _ _ _ => trivial
  exact (Leads.iff_of_ok performed).1 leads

/-- What a build and a list of its pairs add to the counters: nothing when
there are no spheres, and otherwise numbers that depend on no more than
whether the largest radius has to be found, be it for an automatic size or
for a warning. -/
theorem build_listPairs_counts {memory memory' : Memory} {source : Source} {s t u : Session} {reply reply' : Reply}
    (built : (Call.build source).perform memory s = (.ok reply, t))
    (listed : Call.listPairs.perform memory' t = (.ok reply', u)) :
    u.meter =
      if source.count = 0 then s.meter
      else if Float32.lt 0 s.index.requestedSize && !s.journal.lets .warn then s.meter.plus 12 2 2
      else s.meter.plus 13 2 3 := by
  rw [meter_of_listPairs (built_of_build built) listed, meter_of_build built, ← Source.length_toList]
  unfold Index.buildMeter Index.listingMeter
  cases source.toList with
  | nil => rfl
  | cons =>
    simp only [List.isEmpty_cons, Bool.false_eq_true, if_false, List.length_cons, Nat.succ_ne_zero]
    split <;> rfl

end Call

/-- A session that asks for unit cells, with nothing built in it. -/
def Session.unitCells : Session :=
  ((Call.setCellSize 1).perform .machine ((Call.setOrigin ⟨0, 0, 0⟩).perform .machine {}).2).2

/-- Cells of the row that are sized automatically take one more launch and
one more value to wait for than cells of a given size. -/
theorem Call.build_listPairs_counts_row :
    (∃ reply u,
      (Call.build .row).perform .machine ((Call.setOrigin ⟨0, 0, 0⟩).perform .machine {}).2 = (.ok .done, Session.row) ∧
        Call.listPairs.perform .machine Session.row = (.ok reply, u) ∧ u.meter = ⟨13, 2, 3⟩) ∧
      ∃ reply t reply' u, (Call.build .row).perform .machine Session.unitCells = (.ok reply, t) ∧
        Call.listPairs.perform .machine t = (.ok reply', u) ∧ u.meter = ⟨12, 2, 2⟩ := by
  constructor
  · obtain ⟨reply, listed⟩ := exists_eq_of_isOk Session.row_lists.2.1
    have counts := build_listPairs_counts Session.row_built listed
    rw [if_neg (by decide), if_neg (by decide +kernel)] at counts
    exact ⟨reply, _, Session.row_built, listed, counts⟩
  · have builds : ((Call.build .row).perform .machine Session.unitCells).1.isOk = true := by decide +kernel
    have lists : (Call.listPairs.perform .machine
        ((Call.build .row).perform .machine Session.unitCells).2).1.isOk = true := by decide +kernel
    obtain ⟨reply, built⟩ := exists_eq_of_isOk builds
    obtain ⟨reply', listed⟩ := exists_eq_of_isOk lists
    have counts := build_listPairs_counts built listed
    rw [if_neg (by decide), if_pos (by decide +kernel)] at counts
    exact ⟨reply, _, reply', _, built, listed, counts⟩

end ContactGrid
