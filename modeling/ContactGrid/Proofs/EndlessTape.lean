import ContactGrid.Proofs.Leads

namespace ContactGrid

namespace Tape

/-- Everything that a caller can ask of a tape. -/
inductive Request (α : Type) where
  | reserve (n : Nat)
  | resize (n : Nat)
  | fill (value : α)
  | upload (values : List α)
  | clear
  | set (i : Nat) (value : α)
  | copy

namespace Request

variable {α σ τ : Type}

/-- The cells that a request needs room for. -/
def demand : Request α → Option Nat
  | .reserve n | .resize n => some n
  | .upload values => some values.length
  | _ => none

/-- The cells that show after a request. -/
def showing (length : Nat) : Request α → Nat
  | .resize n => n
  | .upload values => values.length
  | .clear => 0
  | _ => length

/-- What a request writes into a cell, if it does, while so many cells
show. -/
def written (length i : Nat) : Request α → Option α
  | .fill value => if i < length then some value else none
  | .upload values => values[i]?
  | .set j value => if i = j then some value else none
  | _ => none

/-- Requests that only move the end of what shows. -/
def moves : Request α → Bool
  | .reserve _ | .resize _ | .clear | .copy => true
  | .fill _ | .upload _ | .set _ _ => false

theorem written_of_moves {request : Request α} (moves : request.moves = true) (length i : Nat) :
    request.written length i = none := by
  cases request <;> first | rfl | cases moves

/-- A request of the past: how many cells showed when it was made, and what
came of it. -/
structure Answer (α : Type) where
  showed : Nat
  request : Request α
  outcome : Except Failure Unit

namespace Answer

/-- The room that was asked for with success. -/
def granted (a : Answer α) : Option Nat :=
  if a.outcome.isOk = true then a.request.demand else none

/-- What a cell was given. -/
def wrote (i : Nat) (a : Answer α) : Option α :=
  if a.outcome.isOk = true then a.request.written a.showed i else none

end Answer

/-- Makes requests one after another and keeps a log of the answers. Each
request may find another memory. -/
def play (step : Memory → Request α → σ → Except Failure Unit × σ) (length : σ → Nat) :
    List (Memory × Request α) → σ → List (Answer α) × σ
  | [], s => ([], s)
  | (memory, request) :: requests, s =>
    let (outcome, t) := step memory request s
    let (answers, last) := play step length requests t
    (⟨length s, request, outcome⟩ :: answers, last)

/-- If single requests come to the same in two worlds, so do all of them
together. -/
theorem play_view {step : Memory → Request α → σ → Except Failure Unit × σ}
    {step' : Memory → Request α → τ → Except Failure Unit × τ} {length : σ → Nat} {length' : τ → Nat} {view : σ → τ}
    (same : ∀ memory request s, step' memory request (view s) =
      ((step memory request s).1, view (step memory request s).2))
    (shown : ∀ s, length' (view s) = length s) (requests : List (Memory × Request α)) (s : σ) :
    play step' length' requests (view s) =
      ((play step length requests s).1, view (play step length requests s).2) := by
  induction requests generalizing s with
  | nil => rfl
  | cons request requests ih => simp only [play, same, shown, ih]

end Request

variable {α : Type} [Inhabited α]

/-- What becomes of a tape. -/
def asked (memory : Memory) (request : Request α) (t : Tape α) : Except Failure (Tape α) :=
  match request with
  | .reserve n => (t.reserve memory n).mapError .refused
  | .resize n => (t.resize memory n).mapError .refused
  | .fill value => .ok (t.fill value)
  | .upload values => (t.upload memory values).mapError .refused
  | .clear => .ok t.clear
  | .set i value => (t.set i value).mapError .faulty
  | .copy => .ok t

/-- The outcome of a request, and the tape after it. A request that fails
leaves its caller with the tape as it was. -/
def perform (memory : Memory) (request : Request α) (t : Tape α) : Except Failure Unit × Tape α :=
  match t.asked memory request with
  | .ok u => (.ok (), u)
  | .error e => (.error e, t)

def play : List (Memory × Request α) → Tape α → List (Request.Answer α) × Tape α :=
  Request.play perform length

end Tape

/-- A tape without an end. All of its cells are there from the start, and
its capacity is a mere number. -/
structure EndlessTape (α : Type) where
  label : String
  cell : Nat → α
  length : Nat
  capacity : Nat

namespace EndlessTape

open Tape (Request)

variable {α : Type}

def blank [Inhabited α] (label : String) : EndlessTape α :=
  ⟨label, fun _ => default, 0, 0⟩

/-- What stands against a request: room that the memory denies, or a cell
that does not show. -/
def objection (memory : Memory) (e : EndlessTape α) : Request α → Option Failure
  | .set i _ => if i < e.length then none else some (.faulty (.outOfRange i e.length))
  | request => request.demand.bind fun n =>
    if e.capacity < n ∧ memory.grants e.label n = false then some (.refused (.capacity n e.label)) else none

def after (request : Request α) (e : EndlessTape α) : EndlessTape α where
  label := e.label
  cell i := (request.written e.length i).getD (e.cell i)
  length := request.showing e.length
  capacity := request.demand.elim e.capacity (max e.capacity)

def perform (memory : Memory) (request : Request α) (e : EndlessTape α) : Except Failure Unit × EndlessTape α :=
  match e.objection memory request with
  | none => (.ok (), e.after request)
  | some failure => (.error failure, e)

def play : List (Memory × Request α) → EndlessTape α → List (Request.Answer α) × EndlessTape α :=
  Request.play perform length

/-- The capacity is the largest number of cells that room was made for. -/
theorem capacity_play (requests : List (Memory × Request α)) (e : EndlessTape α) :
    (play requests e).2.capacity = ((play requests e).1.filterMap Request.Answer.granted).foldl max e.capacity := by
  induction requests generalizing e with
  | nil => rfl
  | cons first requests ih =>
    obtain ⟨memory, request⟩ := first
    rw [play, Request.play, perform]
    cases e.objection memory request with
    | some failure => exact ih e
    | none =>
      refine (ih (e.after request)).trans ?_
      rw [List.filterMap_cons]
      have granted : Request.Answer.granted ⟨e.length, request, .ok ()⟩ = request.demand := rfl
      rw [granted]
      cases demand : request.demand with
      | none => simp only [after, demand, Option.elim_none, play]
      | some n => simp only [after, demand, Option.elim_some, List.foldl_cons, play]

/-- A cell holds what was written into it last. -/
theorem cell_play (requests : List (Memory × Request α)) (e : EndlessTape α) (i : Nat) :
    (play requests e).2.cell i =
      ((play requests e).1.filterMap (Request.Answer.wrote i)).getLast?.getD (e.cell i) := by
  induction requests generalizing e with
  | nil => rfl
  | cons first requests ih =>
    obtain ⟨memory, request⟩ := first
    rw [play, Request.play, perform]
    cases e.objection memory request with
    | some failure => exact ih e
    | none =>
      refine (ih (e.after request)).trans ?_
      rw [List.filterMap_cons]
      have wrote : Request.Answer.wrote i ⟨e.length, request, .ok ()⟩ = request.written e.length i := rfl
      rw [wrote]
      cases written : request.written e.length i with
      | none => simp only [after, written, Option.getD_none, play]
      | some value => simp only [after, written, Option.getD_some, List.getLast?_cons, play]

theorem objection_of_demand (memory : Memory) (e : EndlessTape α) {request : Request α} {n : Nat}
    (demand : request.demand = some n) :
    e.objection memory request =
      if e.capacity < n ∧ memory.grants e.label n = false then some (.refused (.capacity n e.label)) else none := by
  cases request <;> cases demand <;> rfl

/-- Requests that room is left for, or made for, are met if they do not
write outside of what shows. -/
theorem objection_eq_none {memory : Memory} {e : EndlessTape α} {request : Request α}
    (room : ∀ n, request.demand = some n → e.capacity < n → memory.grants e.label n = true)
    (inside : ∀ i value, request = .set i value → i < e.length) : e.objection memory request = none := by
  cases demand : request.demand with
  | some n =>
    rw [objection_of_demand memory e demand, if_neg]
    rintro ⟨short, denied⟩
    exact Bool.noConfusion (denied.symm.trans (room n demand short))
  | none =>
    cases request with
    | set i value => exact if_pos (inside i value rfl)
    | fill value => rfl
    | clear => rfl
    | copy => rfl
    | _ => cases demand

theorem capacity_le_after (request : Request α) (e : EndlessTape α) : e.capacity ≤ (e.after request).capacity := by
  unfold after
  cases request.demand with
  | none => exact Nat.le_refl _
  | some n => exact Nat.le_max_left ..

/-- Nothing is written behind what shows in the end. -/
theorem cell_after_of_le {e : EndlessTape α} {memory : Memory} {request : Request α}
    (met : e.objection memory request = none) {i : Nat} (behind : (e.after request).length ≤ i) :
    (e.after request).cell i = e.cell i := by
  have unwritten : request.written e.length i = none := by
    cases request with
    | fill value => exact if_neg (Nat.not_lt.2 behind)
    | upload values => exact List.getElem?_eq_none behind
    | set j value =>
      have inside : j < e.length := Decidable.of_not_not fun outside => by cases (if_neg outside).symm.trans met
      exact if_neg (Nat.ne_of_gt (Nat.lt_of_lt_of_le inside behind))
    | _ => rfl
  simp only [after, unwritten, Option.getD_none]

end EndlessTape

namespace Tape

variable {α : Type} [Inhabited α]

/-- A tape seen without its end: what it does not hold yet are untouched
cells. -/
def endless (t : Tape α) : EndlessTape α where
  label := t.label
  cell i := t.cells.getD i default
  length := t.length
  capacity := t.capacity

theorem contents_eq_cells (t : Tape α) : t.contents = (List.range t.length).map t.endless.cell := by
  have held := t.length_le
  refine List.ext_getElem (by simp) fun i here _ => ?_
  have inside : i < t.cells.length := by
    rw [length_contents] at here
    omega
  simp [contents, endless, List.getElem?_eq_getElem inside]

theorem endless_extended (t : Tape α) (n : Nat) :
    (t.extended n).endless = t.endless.after (.reserve n) := by
  have room := (capacity_extended t n).trans (Nat.max_comm n t.capacity)
  have cells : (t.extended n).endless.cell = t.endless.cell := by
    funext i
    simp only [extended, endless, List.getD_eq_getElem?_getD, List.getElem?_append, List.getElem?_replicate]
    by_cases held : i < t.cells.length
    · rw [if_pos held]
    · rw [if_neg held, List.getElem?_eq_none (Nat.not_lt.1 held)]
      split <;> rfl
  rw [endless, EndlessTape.after, EndlessTape.mk.injEq]
  exact ⟨rfl, cells, rfl, room⟩

theorem endless_shown {t : Tape α} {n : Nat} (room : n ≤ t.capacity) :
    (t.shown n).endless = { t.endless with length := n } := by
  rw [endless, EndlessTape.mk.injEq]
  exact ⟨rfl, rfl, Nat.min_eq_left room, rfl⟩

theorem endless_write {t : Tape α} {values : List α} (fits : values.length = t.length) :
    (t.write values).endless = { t.endless with cell := fun i => values[i]?.getD (t.endless.cell i) } := by
  have cells : (t.write values).endless.cell = fun i => values[i]?.getD (t.endless.cell i) := by
    funext i
    -- The hidden cells stay behind the values, at their old places.
    simp only [write, endless, List.getD_eq_getElem?_getD, ← fits, List.take_length, List.getElem?_append,
      List.getElem?_drop]
    by_cases written : i < values.length
    · rw [if_pos written, List.getElem?_eq_getElem written, Option.getD_some, Option.getD_some]
    · rw [if_neg written, List.getElem?_eq_none (Nat.not_lt.1 written), Option.getD_none,
        Nat.add_sub_cancel' (Nat.not_lt.1 written)]
  rw [endless, EndlessTape.mk.injEq]
  exact ⟨rfl, cells, rfl, capacity_write t values⟩

/-- A request for room is refused for what stands against it on the endless
tape, or it leaves what it leaves there. -/
def Grows (memory : Memory) (request : Request α) (t : Tape α) (result : Except Refusal (Tape α)) : Prop :=
  (∃ r, t.endless.objection memory request = some (.refused r) ∧ result = .error r) ∨
  t.endless.objection memory request = none ∧ ∃ u, result = .ok u ∧ u.endless = t.endless.after request

theorem Grows.asked {memory : Memory} {request : Request α} {t : Tape α} {result : Except Refusal (Tape α)}
    (grows : Grows memory request t result) :
    (∃ failure, t.endless.objection memory request = some failure ∧
      result.mapError Failure.refused = .error failure) ∨
    t.endless.objection memory request = none ∧
      ∃ u, result.mapError Failure.refused = .ok u ∧ u.endless = t.endless.after request := by
  refine grows.imp ?_ ?_
  · rintro ⟨r, objection, rfl⟩
    exact ⟨_, objection, rfl⟩
  · rintro ⟨objection, u, rfl, view⟩
    exact ⟨objection, u, rfl, view⟩

/-- Room is made unless it is missing and the memory denies it. -/
theorem reserve_grows (memory : Memory) (t : Tape α) (n : Nat) :
    Grows memory (.reserve n) t (t.reserve memory n) := by
  have objection : t.endless.objection memory (.reserve n) =
      if t.capacity < n ∧ memory.grants t.label n = false then some (.refused (.capacity n t.label)) else none := rfl
  rw [Grows, objection, reserve]
  by_cases room : n ≤ t.capacity
  · rw [if_neg fun both => Nat.not_lt.2 room both.1, if_pos room]
    have same : t.endless.after (.reserve n) = { t.endless with capacity := max t.capacity n } := rfl
    rw [Nat.max_eq_left room] at same
    exact Or.inr ⟨rfl, t, rfl, same.symm⟩
  · rw [if_neg room]
    cases granted : memory.grants t.label n with
    | false => exact Or.inl ⟨_, if_pos ⟨Nat.not_le.1 room, rfl⟩, rfl⟩
    | true =>
      rw [if_neg fun both => Bool.noConfusion both.2]
      exact Or.inr ⟨rfl, _, rfl, endless_extended t n⟩

theorem resize_grows (memory : Memory) (t : Tape α) (n : Nat) : Grows memory (.resize n) t (t.resize memory n) := by
  rcases reserve_grows memory t n with ⟨r, objection, denied⟩ | ⟨objection, u, reserved, view⟩
  · exact Or.inl ⟨r, objection, by rw [resize, denied]; rfl⟩
  · refine Or.inr ⟨objection, u.shown n, by rw [resize, reserved]; rfl, ?_⟩
    have room : n ≤ u.capacity := Nat.le_trans (Nat.le_max_left ..) (Nat.le_of_eq (capacity_of_reserve reserved).symm)
    rw [endless_shown room, view]
    rfl

theorem upload_grows (memory : Memory) (t : Tape α) (values : List α) :
    Grows memory (.upload values) t (t.upload memory values) := by
  rcases resize_grows memory t values.length with ⟨r, objection, denied⟩ | ⟨objection, u, resized, view⟩
  · exact Or.inl ⟨r, objection, by rw [upload, denied]; rfl⟩
  · refine Or.inr ⟨objection, u.write values, by rw [upload, resized]; rfl, ?_⟩
    rw [endless_write (length_of_resize resized).symm, view]
    rfl

theorem endless_fill (t : Tape α) (value : α) : (t.fill value).endless = t.endless.after (.fill value) := by
  rw [fill, endless_write (List.length_replicate ..)]
  simp only [List.getElem?_replicate]
  rfl

theorem endless_set {t u : Tape α} {i : Nat} {value : α} (set : t.set i value = .ok u) :
    u.endless = t.endless.after (.set i value) := by
  unfold Tape.set at set
  split at set
  · rename_i inside
    have held : i < t.cells.length := Nat.lt_of_lt_of_le inside t.length_le
    cases set
    rw [endless, EndlessTape.after, EndlessTape.mk.injEq]
    refine ⟨rfl, ?_, rfl, List.length_set⟩
    funext j
    simp only [endless, List.getD_eq_getElem?_getD, Request.written]
    by_cases here : j = i
    · rw [here, List.getElem?_set_self held, if_pos rfl]
      rfl
    · rw [List.getElem?_set_ne (Ne.symm here), if_neg here]
      rfl
  · cases set

/-- A request is met with the cells of the endless tape, or it fails for
what stands against it there. -/
theorem asked_cases (memory : Memory) (request : Request α) (t : Tape α) :
    (∃ failure, t.endless.objection memory request = some failure ∧ t.asked memory request = .error failure) ∨
    t.endless.objection memory request = none ∧
      ∃ u, t.asked memory request = .ok u ∧ u.endless = t.endless.after request := by
  cases request with
  | reserve n => exact (reserve_grows memory t n).asked
  | resize n => exact (resize_grows memory t n).asked
  | upload values => exact (upload_grows memory t values).asked
  | set i value =>
    by_cases inside : i < t.length
    · have set : t.set i value = .ok _ := if_pos inside
      exact Or.inr ⟨if_pos inside, _, congrArg (Except.mapError Failure.faulty) set, endless_set set⟩
    · have set : t.set i value = .error (.outOfRange i t.length) := if_neg inside
      exact Or.inl ⟨_, if_neg inside, congrArg (Except.mapError Failure.faulty) set⟩
  | fill value => exact Or.inr ⟨rfl, _, rfl, endless_fill t value⟩
  | clear => exact Or.inr ⟨rfl, _, rfl, rfl⟩
  | copy => exact Or.inr ⟨rfl, _, rfl, rfl⟩

/-- A tape does what the endless tape does, and nobody sees where its cells
end. -/
theorem perform_endless (memory : Memory) (request : Request α) (t : Tape α) :
    t.endless.perform memory request = ((t.perform memory request).1, (t.perform memory request).2.endless) := by
  rw [EndlessTape.perform, perform]
  rcases asked_cases memory request t with ⟨failure, objection, failed⟩ | ⟨objection, u, met, view⟩
  · rw [objection, failed]
  · rw [objection, met, view]

theorem play_endless (requests : List (Memory × Request α)) (t : Tape α) :
    t.endless.play requests = ((t.play requests).1, (t.play requests).2.endless) :=
  Request.play_view perform_endless (fun _ => rfl) requests t

/-- What one request does to a tape. -/
structure Step (memory : Memory) (request : Request α) (t : Tape α) : Prop where
  grows : t.capacity ≤ (t.perform memory request).2.capacity
  /-- Nothing is written behind what shows in the end. -/
  behind : ∀ i, (t.perform memory request).2.length ≤ i →
    (t.perform memory request).2.endless.cell i = t.endless.cell i
  moved : request.moves = true → (t.perform memory request).2.endless.cell = t.endless.cell
  /-- Room that is missing and denied is refused with its size and the
  label, and the tape stays as it is. -/
  denied : ∀ n, request.demand = some n → t.capacity < n → memory.grants t.label n = false →
    t.perform memory request = (.error (.refused (.capacity n t.label)), t)
  /-- Else only writing outside of what shows fails. -/
  met : (∀ n, request.demand = some n → t.capacity < n → memory.grants t.label n = true) →
    (∀ i value, request = .set i value → i < t.length) → (t.perform memory request).1 = .ok ()

/-- What is true of every new tape that requests were made of, whatever came
of them: it cannot be told from a tape without an end, whose cells keep what
was written into them last. -/
structure GrowOnly (label : String) (requests : List (Memory × Request α)) (answers : List (Request.Answer α))
    (t : Tape α) : Prop where
  refines : (EndlessTape.blank label).play requests = (answers, t.endless)
  length_le : t.length ≤ t.capacity
  capacity : t.capacity = (answers.filterMap Request.Answer.granted).foldl max 0
  contents : t.contents = (List.range t.length).map t.endless.cell
  cell : ∀ i, t.endless.cell i = (answers.filterMap (Request.Answer.wrote i)).getLast?.getD default
  next : ∀ memory request, Step memory request t

theorem step (memory : Memory) (request : Request α) (t : Tape α) : Step memory request t := by
  rcases asked_cases memory request t with ⟨failure, objection, failed⟩ | ⟨objection, u, met, view⟩
  · have performed : t.perform memory request = (.error failure, t) := by rw [perform, failed]
    refine ⟨?_, ?_, ?_, fun n demand short denied => ?_, fun room inside => ?_⟩
    · exact Nat.le_of_eq (by rw [performed])
    · exact fun i _ => by rw [performed]
    · exact fun _ => by rw [performed]
    · have reason := EndlessTape.objection_of_demand memory t.endless demand
      rw [if_pos ⟨short, denied⟩] at reason
      rw [performed, Option.some.inj (objection.symm.trans reason)]
      rfl
    · cases (EndlessTape.objection_eq_none room inside).symm.trans objection
  · have performed : t.perform memory request = (.ok (), u) := by rw [perform, met]
    refine ⟨?_, ?_, fun moves => ?_, fun n demand short denied => ?_, fun _ _ => by rw [performed]⟩
    · rw [performed]
      exact Nat.le_trans (EndlessTape.capacity_le_after request t.endless)
        (Nat.le_of_eq (congrArg EndlessTape.capacity view).symm)
    · intro i behind
      rw [performed] at behind ⊢
      rw [view]
      exact EndlessTape.cell_after_of_le objection (view ▸ behind)
    · rw [performed, view]
      funext i
      simp only [EndlessTape.after, Request.written_of_moves moves, Option.getD_none]
    · have reason := EndlessTape.objection_of_demand memory t.endless demand
      rw [if_pos ⟨short, denied⟩] at reason
      cases objection.symm.trans reason

theorem growOnly (label : String) (requests : List (Memory × Request α)) :
    GrowOnly label requests ((empty label).play requests).1 ((empty label).play requests).2 := by
  have refines := play_endless requests (empty label : Tape α)
  have capacity := EndlessTape.capacity_play requests (empty label : Tape α).endless
  have cell := EndlessTape.cell_play requests (empty label : Tape α).endless
  rw [refines] at capacity cell
  exact {
    refines
    length_le := length_le _
    capacity
    contents := contents_eq_cells _
    cell
    next := fun memory request => step memory request _ }

end Tape

end ContactGrid
