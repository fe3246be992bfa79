import ContactGrid.Proofs.EndlessTape
import ContactGrid.Proofs.Traces

namespace ContactGrid

namespace Moment

/-- The slots that a `fill` of the past got room for. No other call asks for
any. -/
def grantedRoom (m : Moment) : Option Nat :=
  if m.call.stage = some .filled ∧ Stage.sized.rank ≤ m.before.index.stage.rank then
    m.before.index.grantedRoom m.memory
  else none

/-- The room for records that a call of the past leaves. -/
def roomAfter (m : Moment) : Nat :=
  m.grantedRoom.elim m.before.index.entries.capacity (max m.before.index.entries.capacity)

end Moment

namespace Index

variable {memory : Memory} {s : Session} {last : Option (Grid Float32)}

/-- The room after `fill` is the same whether it succeeds or not. What was
granted to a run that failed later stays. -/
theorem leads_fill_room (kept : s.index.Kept last) :
    Leads (fill memory) s (fun _ t => t.index.entries.capacity = Moment.roomAfter ⟨memory, .fill, s⟩)
      fun _ t => t.index.entries.capacity = Moment.roomAfter ⟨memory, .fill, s⟩ := by
  rw [Moment.roomAfter, Moment.grantedRoom]
  by_cases ready : Stage.sized.rank ≤ s.index.stage.rank
  · have bound := kept.bound (Nat.le_trans (by decide) ready)
    rw [if_pos ⟨rfl, ready⟩]
    exact leads_fill ready rfl bound.count rfl (fun _ _ _ _ _ room _ => room) fun _ _ _ _ _ _ room => room
  · rw [if_neg fun both => ready both.2]
    exact leads_requireStage_early (Nat.lt_of_not_le ready) rfl

end Index

theorem Moment.room_after {m : Moment} {last : Option (Grid Float32)} (single : m.call.parts = [m.call])
    (kept : m.before.index.Kept last) : m.after.index.entries.capacity = m.roomAfter := by
  obtain ⟨memory, call, s⟩ := m
  by_cases fills : call.stage = some .filled
  · cases call with
    | fill =>
      have leads : Leads (Call.fill.run memory) s
          (fun _ t => t.index.entries.capacity = roomAfter ⟨memory, .fill, s⟩)
          fun _ t => t.index.entries.capacity = roomAfter ⟨memory, .fill, s⟩ := by
        rw [Call.run, Leads.bind_iff]
        exact Index.leads_fill_room kept
      exact leads.always
    | _ => cases fills
  · rw [roomAfter, grantedRoom, if_neg fun both => fills both.1]
    exact (call.frame_perform memory single kept).room fills

theorem Index.Traced.room {x : Index} {trace : List Moment} (traced : x.Traced trace) :
    x.entries.capacity = (trace.filterMap Moment.grantedRoom).foldl max 0 := by
  refine traced.holds (motive := fun x trace => x.entries.capacity = (trace.filterMap Moment.grantedRoom).foldl max 0)
    rfl fun m trace last single kept room => ?_
  rw [Moment.room_after single kept, Moment.roomAfter, room, List.filterMap_append, List.foldl_append,
    List.filterMap_cons]
  cases m.grantedRoom with
  | none => rfl
  | some slots => rfl

/-- Tapes only grow. A new tape, whatever is asked of it and whatever the
memory grants, cannot be told from a tape without an end whose length and
capacity are mere numbers. So the room for records in an index is the
largest that any `fill` of its past was granted, and none if there is no
such `fill`. -/
theorem Index.Traced.grow_only {α : Type} [Inhabited α] (label : String) (requests : List (Memory × Tape.Request α))
    {x : Index} {trace : List Moment} (traced : x.Traced trace) :
    Tape.GrowOnly label requests ((Tape.empty label).play requests).1 ((Tape.empty label).play requests).2 ∧
      x.entries.capacity = (trace.filterMap Moment.grantedRoom).foldl max 0 :=
  ⟨Tape.growOnly label requests, traced.room⟩

/-- A tape shrinks, is filled and grows again, and a request too many is
denied. The row has made room for three objects. -/
theorem Session.row_grow_only : ∃ trace answers t, Session.row.index.Traced trace ∧
    (trace.filterMap Moment.grantedRoom).foldl max 0 = 25 ∧
    (Tape.empty "test").play [(.machine, .resize 8), (.machine, .fill 7), (.machine, .resize 4), (.machine, .fill 1),
      (⟨fun _ _ => false⟩, .upload (List.replicate 9 2)), (.machine, .resize 8)] = (answers, t) ∧
    t.contents = [1, 1, 1, 1, 7, 7, 7, 7] ∧ (answers.filterMap Tape.Request.Answer.granted).foldl max 0 = 8 := by
  obtain ⟨_, reached⟩ := Session.row_reached
  obtain ⟨trace, traced⟩ := reached.traced
  obtain ⟨tape, room⟩ := traced.grow_only "test" [(.machine, .resize 8), (.machine, .fill 7), (.machine, .resize 4),
    (.machine, .fill 1), (⟨fun _ _ => false⟩, .upload (List.replicate 9 2)), (.machine, .resize 8)]
  have shown : Session.row.index.entries.capacity = 25 := by decide +kernel
  exact ⟨trace, _, _, traced, room.symm.trans shown, rfl, by decide +kernel,
    tape.capacity.symm.trans (by decide +kernel)⟩

end ContactGrid
