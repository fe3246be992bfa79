import ContactGrid.Index.Call

namespace ContactGrid

variable {σ α β : Type}

/-- Work from a state hands over a value or fails, and leaves a state either
way. Both ends have to be as stated. -/
def Leads (work : ExceptT Failure (StateM σ) α) (s : σ) (done : α → σ → Prop)
    (failed : Failure → σ → Prop) : Prop :=
  match work.run.run s with
  | (.ok a, t) => done a t
  | (.error e, t) => failed e t

namespace Leads

variable {done : α → σ → Prop} {failed : Failure → σ → Prop} {s : σ}

theorem imp {done' : α → σ → Prop} {failed' : Failure → σ → Prop} {work : ExceptT Failure (StateM σ) α}
    (leads : Leads work s done failed) (value : ∀ a t, done a t → done' a t)
    (failure : ∀ e t, failed e t → failed' e t) : Leads work s done' failed' := by
  unfold Leads at *
  split at leads
  · exact value _ _ leads
  · exact failure _ _ leads

theorem of_ok {work : ExceptT Failure (StateM σ) α} {a : α} (leads : Leads work s done failed)
    (ok : (work.run.run s).1 = .ok a) : done a (work.run.run s).2 := by
  unfold Leads at leads
  split at leads
  · rename_i run
    simp_all
  · rename_i run
    simp [run] at ok

theorem of_error {work : ExceptT Failure (StateM σ) α} {e : Failure} (leads : Leads work s done failed)
    (error : (work.run.run s).1 = .error e) : failed e (work.run.run s).2 := by
  unfold Leads at leads
  split at leads
  · rename_i run
    simp [run] at error
  · rename_i run
    simp_all

theorem cases {work : ExceptT Failure (StateM σ) α} (leads : Leads work s done failed) :
    (∃ a, (work.run.run s).1 = .ok a ∧ done a (work.run.run s).2) ∨
      ∃ e, (work.run.run s).1 = .error e ∧ failed e (work.run.run s).2 := by
  cases outcome : (work.run.run s).1 with
  | ok a => exact Or.inl ⟨a, rfl, leads.of_ok outcome⟩
  | error e => exact Or.inr ⟨e, rfl, leads.of_error outcome⟩

/-- What holds at both ends holds after the work. -/
theorem always {holds : σ → Prop} {work : ExceptT Failure (StateM σ) α}
    (leads : Leads work s (fun _ t => holds t) fun _ t => holds t) : holds (work.run.run s).2 := by
  rcases leads.cases with ⟨_, _, value⟩ | ⟨_, _, failure⟩
  · exact value
  · exact failure

/-- Work that cannot fail hands over a value. -/
theorem exists_ok {work : ExceptT Failure (StateM σ) α} (leads : Leads work s done fun _ _ => False) :
    ∃ a t, work.run.run s = (.ok a, t) ∧ done a t := by
  rcases leads.cases with ⟨a, outcome, value⟩ | ⟨_, _, impossible⟩
  · exact ⟨a, _, Prod.ext outcome rfl, value⟩
  · exact impossible.elim

theorem run_eq_ok {work : ExceptT Failure (StateM σ) α} {a : α} {t : σ}
    (leads : Leads work s (fun a' t' => a' = a ∧ t' = t) fun _ _ => False) : work.run.run s = (.ok a, t) := by
  obtain ⟨_, _, run, rfl, rfl⟩ := leads.exists_ok
  exact run

/-- Work that can only fail in one way does so. -/
theorem run_eq_error {work : ExceptT Failure (StateM σ) α} {e : Failure} {t : σ}
    (leads : Leads work s (fun _ _ => False) fun e' t' => e' = e ∧ t' = t) : work.run.run s = (.error e, t) := by
  rcases leads.cases with ⟨_, _, impossible⟩ | ⟨_, outcome, rfl, same⟩
  · exact impossible.elim
  · exact Prod.ext outcome same

theorem iff_of_ok {work : ExceptT Failure (StateM σ) α} {a : α} {t : σ} (run : work.run.run s = (.ok a, t)) :
    Leads work s done failed ↔ done a t := by
  unfold Leads
  rw [run]

theorem iff_of_error {work : ExceptT Failure (StateM σ) α} {e : Failure} {t : σ}
    (run : work.run.run s = (.error e, t)) : Leads work s done failed ↔ failed e t := by
  unfold Leads
  rw [run]

@[simp]
theorem pure_iff (a : α) : Leads (pure a) s done failed ↔ done a s := Iff.rfl

@[simp]
theorem bind_iff {work : ExceptT Failure (StateM σ) β} {next : β → ExceptT Failure (StateM σ) α} :
    Leads (work >>= next) s done failed ↔ Leads work s (fun b t => Leads (next b) t done failed) failed := by
  have run : (work >>= next).run.run s =
      (ExceptT.bindCont next (work.run.run s).1 : StateM σ _).run (work.run.run s).2 := rfl
  unfold Leads
  rw [run]
  rcases work.run.run s with ⟨_ | _, t⟩ <;> rfl

@[simp]
theorem get_iff {done : σ → σ → Prop} :
    Leads (get : ExceptT Failure (StateM σ) σ) s done failed ↔ done s s := Iff.rfl

@[simp]
theorem modify_iff {done : Unit → σ → Prop} {change : σ → σ} :
    Leads (modify change : ExceptT Failure (StateM σ) Unit) s done failed ↔ done () (change s) := Iff.rfl

end Leads

theorem exists_of_isOk {ε α : Type} {result : Except ε α} (good : result.isOk = true) : ∃ a, result = .ok a := by
  cases result with
  | error e => cases good
  | ok a => exact ⟨a, rfl⟩

theorem exists_eq_of_isOk {ε α σ : Type} {outcome : Except ε α × σ} (good : outcome.1.isOk = true) :
    ∃ a, outcome = (.ok a, outcome.2) := by
  obtain ⟨a, ok⟩ := exists_of_isOk good
  exact ⟨a, by rw [← ok]⟩

theorem error_of_map {ε α β : Type} {result : Except ε α} {f : α → β} {e : ε} (failed : result.map f = .error e) :
    result = .error e := by
  cases result with
  | error e' => exact congrArg Except.error (Except.error.inj failed)
  | ok a => cases failed

/-- What a memory says when it refuses to grow. -/
def Memory.Denies (memory : Memory) (e : Failure) : Prop :=
  ∃ label size, memory.grants label size = false ∧ e = .refused (.capacity size label)

/-- A memory that grants every growth. -/
def Memory.endless : Memory :=
  ⟨fun _ _ => true⟩

theorem Memory.not_endless_denies (e : Failure) : ¬Memory.endless.Denies e := by
  rintro ⟨label, size, denied, _⟩
  cases denied

/-- A tape is refused only room that it does not have yet. -/
theorem Tape.error_of_resize [Inhabited α] {memory : Memory} {t : Tape α} {n : Nat} {r : Refusal}
    (denied : t.resize memory n = .error r) : memory.Denies (.refused r) ∧ t.capacity < n := by
  unfold Tape.resize Tape.reserve at denied
  split at denied
  · cases denied
  · rename_i short
    split at denied
    · cases denied
    · rename_i refused
      cases denied
      exact ⟨⟨t.label, n, by simpa using refused, rfl⟩, Nat.lt_of_not_le short⟩

theorem Tape.capacity_of_resize [Inhabited α] {memory : Memory} {t u : Tape α} {n : Nat}
    (granted : t.resize memory n = .ok u) : u.capacity = max t.capacity n := by
  cases reserved : t.reserve memory n with
  | error r => simp [resize, reserved, Except.map] at granted
  | ok v =>
    simp only [resize, reserved, Except.map, Except.ok.injEq] at granted
    have same : u.capacity = v.capacity := congrArg (fun t => t.cells.length) granted.symm
    rw [same, Nat.max_comm]
    exact capacity_of_reserve reserved

/-- A tape that gets the room it asks for does not notice where the memory
ends. -/
theorem Tape.resize_eq_endless [Inhabited α] {memory : Memory} {t : Tape α} {n : Nat}
    (granted : t.capacity < n → memory.grants t.label n = true) : t.resize memory n = t.resize .endless n := by
  unfold Tape.resize Tape.reserve
  by_cases room : n ≤ t.capacity
  · rw [if_pos room, if_pos room]
  · rw [if_neg room, if_neg room, if_pos (granted (Nat.lt_of_not_le room))]
    rfl

/-- A tape that was written to its end shrinks to a part of what was
written, without asking for memory. -/
theorem Tape.resize_write [Inhabited α] (memory : Memory) {t : Tape α} {xs ys : List α} {n : Nat}
    (whole : (xs ++ ys).length = t.length) (part : xs.length = n) :
    ∃ u, (t.write (xs ++ ys)).resize memory n = .ok u ∧ u.contents = xs ∧ u.length = n := by
  have fits : n ≤ (t.write (xs ++ ys)).length := by
    rw [← part]
    exact Nat.le_trans (by simp) (Nat.le_of_eq whole)
  have room : n ≤ (t.write (xs ++ ys)).capacity := Nat.le_trans fits (t.write (xs ++ ys)).length_le
  refine ⟨(t.write (xs ++ ys)).shown n, ?_, ?_, Nat.min_eq_left room⟩
  · rw [Tape.resize, Tape.reserve, if_pos room]
    rfl
  · have shown : ((t.write (xs ++ ys)).shown n).contents = (t.write (xs ++ ys)).contents.take n := by
      rw [Tape.contents, Tape.contents, List.take_take, Nat.min_eq_left fits]
      exact congrArg ((t.write (xs ++ ys)).cells.take ·) (Nat.min_eq_left room)
    rw [shown, contents_write whole, List.take_left' part]

namespace Metered

variable {m : Meter} {done : α → Meter → Prop} {failed : Failure → Meter → Prop}

@[simp]
theorem leads_ofFault_ok (a : α) : Leads (ofFault (.ok a)) m done failed ↔ done a m := Iff.rfl

@[simp]
theorem leads_launch {work : Work} {done : Unit → Meter → Prop} :
    Leads (launch work) m done failed ↔ done () (m.launched work) := Iff.rfl

@[simp]
theorem leads_readBack (a : α) : Leads (readBack a) m done failed ↔ done a m.waited := Iff.rfl

theorem leads_resize [Inhabited α] {memory : Memory} {t : Tape α} {n : Nat} {done : Tape α → Meter → Prop}
    (granted : ∀ u : Tape α, u.length = n → done u m)
    (denied : ∀ e, memory.Denies e → failed e m) :
    Leads (ofRefusal (t.resize memory n)) m done failed := by
  cases resized : t.resize memory n with
  | ok u => exact granted u (Tape.length_of_resize resized)
  | error r => exact denied _ (Tape.error_of_resize resized).1

end Metered

namespace Action

variable {s : Session} {done : α → Session → Prop} {failed : Failure → Session → Prop}

@[simp]
theorem leads_index {done : Index → Session → Prop} : Leads index s done failed ↔ done s.index s := Iff.rfl

@[simp]
theorem leads_onIndex {change : Index → Index} {done : Unit → Session → Prop} :
    Leads (onIndex change) s done failed ↔ done () { s with index := change s.index } := Iff.rfl

@[simp]
theorem leads_note {event : Event} {done : Unit → Session → Prop} :
    Leads (note event) s done failed ↔ done () { s with journal := s.journal.note event } := Iff.rfl

@[simp]
theorem leads_refuse (r : Refusal) :
    Leads (refuse r : Action α) s done failed ↔ failed (.refused r) s := Iff.rfl

@[simp]
theorem leads_ofFault_ok (a : α) : Leads (ofFault (.ok a)) s done failed ↔ done a s := Iff.rfl

@[simp]
theorem leads_ofRefusal_ok (a : α) : Leads (ofRefusal (.ok a)) s done failed ↔ done a s := Iff.rfl

@[simp]
theorem leads_metered {work : Metered α} :
    Leads (metered work) s done failed ↔
      Leads work s.meter (fun a meter => done a { s with meter }) fun e meter => failed e { s with meter } := by
  have run : (metered work).run.run s =
      ((work.run.run s.meter).1, { s with meter := (work.run.run s.meter).2 }) := rfl
  unfold Leads
  rw [run]
  rcases work.run.run s.meter with ⟨_ | _, t⟩ <;> rfl

theorem leads_resize_cases [Inhabited α] {memory : Memory} {t : Tape α} {n : Nat}
    {done : Tape α → Session → Prop} (granted : ∀ u, t.resize memory n = .ok u → done u s)
    (denied : ∀ r, t.resize memory n = .error r → failed (.refused r) s) :
    Leads (ofRefusal (t.resize memory n)) s done failed := by
  cases resized : t.resize memory n with
  | ok u => exact granted u resized
  | error r => exact denied r resized

/-- A tape that was resized shows as many cells as asked for. Nothing is
known of what it shows. -/
theorem leads_resize_or_short [Inhabited α] {memory : Memory} {t : Tape α} {n : Nat}
    {done : Tape α → Session → Prop} (granted : ∀ u : Tape α, u.length = n → done u s)
    (denied : ∀ e, memory.Denies e → t.capacity < n → failed e s) :
    Leads (ofRefusal (t.resize memory n)) s done failed := by
  refine leads_resize_cases (fun u resized => granted u (Tape.length_of_resize resized)) fun r error => ?_
  obtain ⟨refused, short⟩ := Tape.error_of_resize error
  exact denied _ refused short

theorem leads_resize [Inhabited α] {memory : Memory} {t : Tape α} {n : Nat} {done : Tape α → Session → Prop}
    (granted : ∀ u : Tape α, u.length = n → done u s)
    (denied : ∀ e, memory.Denies e → failed e s) :
    Leads (ofRefusal (t.resize memory n)) s done failed :=
  leads_resize_or_short granted fun e refused _ => denied e refused

end Action

end ContactGrid
