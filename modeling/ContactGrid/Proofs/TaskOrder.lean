import ContactGrid.Proofs.Enumerating

namespace ContactGrid

variable {α : Type}

/-- Tasks that write to one buffer. Each has some places of its own: it is
given what they hold and returns what to put there. Whatever else it reads
is complete before the tasks start. -/
structure Tasks (α : Type) where
  places : List (List Nat)
  body : Nat → List α → Except Fault (List α)

namespace Tasks

/-- Puts values in some places of a buffer. -/
def put (buffer : List α) (places : List Nat) (values : List α) : List α :=
  (places.zip values).foldl (fun buffer (place, value) => buffer.set place value) buffer

/-- Runs one task on the buffer as it is when its turn comes. -/
def step (tasks : Tasks α) (buffer : List α) (i : Nat) : Except Fault (List α) := do
  let places ← Fault.fetch tasks.places.toArray i
  let held ← places.mapM (Fault.fetch buffer.toArray)
  let values ← tasks.body i held
  Fault.check (values.length = places.length) "a task fills its places"
  return put buffer places values

/-- Runs tasks one after another, in the order of their numbers in a list.
Every place of the buffer has to belong to just one of them. -/
def run (tasks : Tasks α) (order : List Nat) (buffer : List α) : Except Fault (List α) := do
  Fault.check (tasks.places.flatten.Perm (List.range buffer.length)) "every place belongs to one task"
  order.foldlM tasks.step buffer

/-- Task `i` has place `i`. -/
def elements (count : Nat) (body : Nat → α → Except Fault α) : Tasks α where
  places := (List.range count).map ([·])
  body i held := held.mapM (body i)

/-- Task `i` has piece `i` of the buffer. -/
def pieces (size count : Nat) (body : Nat → List α → Except Fault (List α)) : Tasks α where
  places := Metered.pieces size (List.range count)
  body

end Tasks

/-- In a buffer, some places hold some values. -/
def Holds (buffer : List α) (places : List Nat) (values : List α) : Prop :=
  places.map (buffer[·]?) = values.map some

section Holds

variable {buffer out : List α} {places : List Nat} {values : List α}

theorem Holds.length_eq (holds : Holds buffer places values) : places.length = values.length := by
  have same := congrArg List.length holds
  rwa [List.length_map, List.length_map] at same

theorem exists_holds (inside : ∀ p ∈ places, p < buffer.length) : ∃ values, Holds buffer places values := by
  induction places with
  | nil => exact ⟨[], rfl⟩
  | cons p places ih =>
    obtain ⟨values, holds⟩ := ih fun q member => inside q (List.mem_cons_of_mem p member)
    have within := inside p List.mem_cons_self
    refine ⟨buffer[p] :: values, ?_⟩
    rw [Holds, List.map_cons, List.map_cons, holds, List.getElem?_eq_getElem within]

theorem Holds.mapM_fetch (holds : Holds buffer places values) :
    places.mapM (Fault.fetch buffer.toArray) = .ok values := by
  refine Metered.mapM_eq_ok_of_getElem? holds.length_eq fun i p value atP atValue => Fault.fetch_eq_ok ?_
  have same := congrArg (·[i]?) holds
  simp only [List.getElem?_map, atP, atValue, Option.map_some] at same
  rw [List.getElem?_toArray]
  exact Option.some.inj same

theorem Holds.congr (holds : Holds buffer places values) (same : ∀ p ∈ places, out[p]? = buffer[p]?) :
    Holds out places values :=
  (List.map_congr_left same).trans holds

theorem length_put : (Tasks.put buffer places values).length = buffer.length := by
  unfold Tasks.put
  induction places.zip values generalizing buffer with
  | nil => rfl
  | cons first rest ih => rw [List.foldl_cons, ih, List.length_set]

/-- After the values of another buffer were put in some places, these places
look like that buffer, and all others look as before. -/
theorem getElem?_put (holds : Holds out places values) (inside : ∀ p ∈ places, p < buffer.length) (q : Nat) :
    (Tasks.put buffer places values)[q]? = if q ∈ places then out[q]? else buffer[q]? := by
  induction places generalizing buffer values with
  | nil => rfl
  | cons p places ih =>
    cases values with
    | nil => cases holds
    | cons value values =>
      obtain ⟨first, rest⟩ := List.cons.inj holds
      have first : out[p]? = some value := first
      have step : Tasks.put buffer (p :: places) (value :: values) = Tasks.put (buffer.set p value) places values := rfl
      have within : ∀ q ∈ places, q < (buffer.set p value).length := fun q member => by
        rw [List.length_set]
        exact inside q (List.mem_cons_of_mem p member)
      rw [step, ih rest within]
      by_cases later : q ∈ places
      · rw [if_pos later, if_pos (List.mem_cons_of_mem p later)]
      · rw [if_neg later]
        by_cases here : q = p
        · subst here
          rw [if_pos List.mem_cons_self, first, List.getElem?_set_self (inside q List.mem_cons_self)]
        · rw [if_neg (by simp [here, later]), List.getElem?_set_ne (Ne.symm here)]

end Holds

namespace Tasks

variable {tasks : Tasks α} {buffer out : List α}

/-- A place belongs to no two tasks. -/
theorem eq_of_mem_places (once : tasks.places.flatten.Nodup) {i j p : Nat} {a b : List Nat}
    (atI : tasks.places[i]? = some a) (atJ : tasks.places[j]? = some b) (inA : p ∈ a) (inB : p ∈ b) : i = j := by
  obtain ⟨withinI, rfl⟩ := List.getElem?_eq_some_iff.1 atI
  obtain ⟨withinJ, rfl⟩ := List.getElem?_eq_some_iff.1 atJ
  have apart := List.pairwise_iff_getElem.1 (List.nodup_flatten.1 once).2
  rcases Nat.lt_trichotomy i j with less | same | more
  · exact (apart i j withinI withinJ less inA inB).elim
  · exact same
  · exact (apart j i withinJ withinI more inB inA).elim

/-- Some tasks are done, and their places look like the outcome. All other
places look as before. -/
structure Partial (tasks : Tasks α) (start out : List α) (done : List Nat) (buffer : List α) : Prop where
  length : buffer.length = start.length
  places : ∀ i a p, tasks.places[i]? = some a → p ∈ a → buffer[p]? = if i ∈ done then out[p]? else start[p]?

variable {start : List α} {done : List Nat}

/-- What each task has to do: turn what its places hold at the start into
what they hold in the outcome. -/
def Turns (tasks : Tasks α) (start out : List α) : Prop :=
  ∀ i places held values, tasks.places[i]? = some places → Holds start places held → Holds out places values →
    tasks.body i held = .ok values

theorem step_partial (exact : tasks.places.flatten.Perm (List.range start.length)) (same : out.length = start.length)
    (turns : tasks.Turns start out) (progress : tasks.Partial start out done buffer) {i : Nat}
    (task : i < tasks.places.length) (fresh : i ∉ done) :
    ∃ next, tasks.step buffer i = .ok next ∧ tasks.Partial start out (i :: done) next := by
  have found : tasks.places[i]? = some tasks.places[i] := List.getElem?_eq_getElem task
  have inside : ∀ p ∈ tasks.places[i], p < start.length := fun p member =>
    List.mem_range.1 (exact.mem_iff.1 (List.mem_flatten.2 ⟨_, List.getElem_mem task, member⟩))
  obtain ⟨held, holds⟩ := exists_holds inside
  obtain ⟨values, becomes⟩ := exists_holds fun p member => same ▸ inside p member
  -- nobody has written to the places of this task yet
  have untouched : Holds buffer tasks.places[i] held := holds.congr fun p member => by
    rw [progress.places i _ p found member, if_neg fresh]
  refine ⟨put buffer tasks.places[i] values, ?_, ?_, ?_⟩
  · rw [step, Fault.fetch_eq_ok ((List.getElem?_toArray).trans found), Fault.ok_bind, untouched.mapM_fetch, Fault.ok_bind,
      turns i _ _ _ found holds becomes, Fault.ok_bind, Fault.check_of becomes.length_eq.symm]
    rfl
  · rw [length_put, progress.length]
  · intro j a p atJ member
    rw [getElem?_put becomes fun p member => progress.length ▸ inside p member]
    by_cases own : j = i
    · subst own
      obtain rfl := Option.some.inj (found.symm.trans atJ)
      rw [if_pos member, if_pos List.mem_cons_self]
    · have other : p ∉ tasks.places[i] := fun shared =>
        own (eq_of_mem_places (exact.nodup_iff.2 List.nodup_range) atJ found member shared)
      rw [if_neg other, progress.places j a p atJ member]
      simp [own]

theorem foldlM_partial (exact : tasks.places.flatten.Perm (List.range start.length))
    (same : out.length = start.length) (turns : tasks.Turns start out) {order : List Nat}
    (only : ∀ i ∈ order, i < tasks.places.length) (once : (order ++ done).Nodup)
    (progress : tasks.Partial start out done buffer) :
    ∃ last, order.foldlM tasks.step buffer = .ok last ∧ tasks.Partial start out (order.reverse ++ done) last := by
  induction order generalizing buffer done with
  | nil => exact ⟨buffer, rfl, progress⟩
  | cons i order ih =>
    obtain ⟨fresh, _⟩ := List.nodup_cons.1 once
    obtain ⟨next, run, progress⟩ := step_partial exact same turns progress (only i List.mem_cons_self)
      fun member => fresh (List.mem_append_right order member)
    obtain ⟨last, rest, progress⟩ := ih (fun j member => only j (List.mem_cons_of_mem i member))
      (List.nodup_middle.2 once) progress
    refine ⟨last, by rw [List.foldlM_cons, run, Fault.ok_bind, rest], ?_⟩
    rwa [List.reverse_cons, List.append_assoc]

/-- Whatever the order of the tasks, they come to the outcome that each of
them works toward. -/
theorem run_eq_ok (exact : tasks.places.flatten.Perm (List.range start.length)) (same : out.length = start.length)
    (turns : tasks.Turns start out) {order : List Nat} (perm : order.Perm (List.range tasks.places.length)) :
    tasks.run order start = .ok out := by
  have once : (order ++ []).Nodup := (List.append_nil order).symm ▸ perm.nodup_iff.2 List.nodup_range
  obtain ⟨last, run, progress⟩ := foldlM_partial exact same turns
    (fun i member => List.mem_range.1 (perm.mem_iff.1 member)) once
    ⟨rfl, fun i a p _ _ => (if_neg List.not_mem_nil).symm⟩
  rw [Tasks.run, Fault.check_of exact, Fault.ok_bind, run]
  refine congrArg Except.ok (List.ext_getElem? fun p => ?_)
  by_cases inside : p < start.length
  · obtain ⟨a, member, inA⟩ := List.mem_flatten.1 (exact.mem_iff.2 (List.mem_range.2 inside))
    obtain ⟨i, within, rfl⟩ := List.getElem_of_mem member
    rw [progress.places i _ p (List.getElem?_eq_getElem within) inA, if_pos]
    rw [List.append_nil, List.mem_reverse]
    exact perm.mem_iff.2 (List.mem_range.2 within)
  · rw [List.getElem?_eq_none (by rw [progress.length]; omega), List.getElem?_eq_none (by omega)]

theorem map_getElem?_range (xs : List α) : (List.range xs.length).map (xs[·]?) = xs.map some := by
  refine List.ext_getElem? fun i => ?_
  by_cases inside : i < xs.length
  · simp [inside]
  · simp [Nat.not_lt.1 inside]

/-- Where a buffer was cut up along with its places, what the places of a
task hold is its part of the buffer. -/
theorem getElem?_of_holds {places : List (List Nat)} {parts : List (List α)}
    (cut : places.map (List.map (buffer[·]?)) = parts.map (List.map some)) {i : Nat} {own : List Nat} {held : List α}
    (found : places[i]? = some own) (holds : Holds buffer own held) : parts[i]? = some held := by
  have same := congrArg (·[i]?) cut
  simp only [List.getElem?_map, found, Option.map_some] at same
  obtain ⟨part, atPart, equal⟩ := Option.map_eq_some_iff.1 same.symm
  rw [atPart, List.map_injective_iff.2 (Option.some_injective α) (equal.trans holds)]

/-- Tasks that go through a buffer part by part come to the outcome if each
of them turns its part of the one into its part of the other. -/
theorem run_parts {parts ends : List (List α)} (exact : tasks.places.flatten = List.range start.length)
    (same : out.length = start.length) (cut : tasks.places.map (List.map (start[·]?)) = parts.map (List.map some))
    (cutOut : tasks.places.map (List.map (out[·]?)) = ends.map (List.map some))
    (steps : ∀ i part last, parts[i]? = some part → ends[i]? = some last → tasks.body i part = .ok last)
    {order : List Nat} (perm : order.Perm (List.range tasks.places.length)) : tasks.run order start = .ok out :=
  run_eq_ok (.of_eq exact) same (fun i _ held values found holds becomes => steps i held values
    (getElem?_of_holds cut found holds) (getElem?_of_holds cutOut found becomes)) perm

/-- One task for each element, in any order. -/
theorem run_elements {body : Nat → α → Except Fault α} (same : start.length = out.length)
    (steps : ∀ i x y, start[i]? = some x → out[i]? = some y → body i x = .ok y) {order : List Nat}
    (perm : order.Perm (List.range (elements out.length body).places.length)) :
    (elements out.length body).run order start = .ok out := by
  have cut {xs : List α} (length : xs.length = out.length) :
      (elements out.length body).places.map (List.map (xs[·]?)) = (xs.map ([·])).map (List.map some) := by
    have singles := congrArg (List.map fun x => [x]) (map_getElem?_range xs)
    rw [length] at singles
    simpa [elements, Function.comp_def] using singles
  refine run_parts ?_ same.symm (cut same) (cut rfl) (fun i part last atPart atLast => ?_) perm
  · simp [elements, same, ← List.flatMap_def]
  · rw [List.getElem?_map] at atPart atLast
    obtain ⟨x, atX, rfl⟩ := Option.map_eq_some_iff.1 atPart
    obtain ⟨y, atY, rfl⟩ := Option.map_eq_some_iff.1 atLast
    have single : [x].mapM (body i) = .ok [y] := by
      rw [List.mapM_cons, steps i x y atX atY]
      rfl
    exact single

theorem pieces_map {β : Type} (f : α → β) (size : Nat) (xs : List α) :
    Metered.pieces size (xs.map f) = (Metered.pieces size xs).map (List.map f) := by
  simp [Metered.pieces_eq_map, Function.comp_def]

/-- One task for each piece, in any order. -/
theorem run_pieces {size : Nat} {body : Nat → List α → Except Fault (List α)} (positive : 0 < size)
    (same : start.length = out.length)
    (steps : ∀ i piece last, (Metered.pieces size start)[i]? = some piece →
      (Metered.pieces size out)[i]? = some last → body i piece = .ok last)
    {order : List Nat} (perm : order.Perm (List.range (pieces size out.length body).places.length)) :
    (pieces size out.length body).run order start = .ok out := by
  have cut {xs : List α} (length : xs.length = out.length) :
      (pieces size out.length body).places.map (List.map (xs[·]?)) = (Metered.pieces size xs).map (List.map some) := by
    rw [pieces, ← pieces_map, ← pieces_map, ← length, map_getElem?_range]
  refine run_parts ?_ same.symm (cut same) (cut rfl) steps perm
  rw [pieces, Metered.flatten_pieces positive, same]

theorem splitLengths_map {β : Type} (f : α → β) (sizes : List Nat) (xs : List α) :
    sizes.splitLengths (xs.map f) = (sizes.splitLengths xs).map (List.map f) := by
  induction sizes generalizing xs with
  | nil => rfl
  | cons size sizes ih => simp [ih, ← List.map_drop, List.map_take]

/-- One task for each part of given size, in any order. -/
theorem run_splitLengths {sizes : List Nat} {body : Nat → List α → Except Fault (List α)}
    (whole : start.length = sizes.sum) (same : start.length = out.length)
    (steps : ∀ i part last, (sizes.splitLengths start)[i]? = some part →
      (sizes.splitLengths out)[i]? = some last → body i part = .ok last)
    {order : List Nat} (perm : order.Perm (List.range sizes.length)) :
    Tasks.run ⟨sizes.splitLengths (List.range out.length), body⟩ order start = .ok out := by
  have cut {xs : List α} (length : xs.length = out.length) :
      (sizes.splitLengths (List.range out.length)).map (List.map (xs[·]?)) =
        (sizes.splitLengths xs).map (List.map some) := by
    rw [← splitLengths_map, ← splitLengths_map, ← length, map_getElem?_range]
  refine run_parts ?_ same.symm (cut same) (cut rfl) steps (by rwa [List.length_splitLengths])
  rw [List.flatten_splitLengths _ _ (by rw [List.length_range]; omega), same]

end Tasks

end ContactGrid
