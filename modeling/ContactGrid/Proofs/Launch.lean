import ContactGrid.Proofs.Leads
import Mathlib.Data.List.Basic

namespace ContactGrid

variable {α β : Type}

/-- One launch, unless there is nothing to do. -/
def Meter.launchedOver (m : Meter) (work : Work) (count : Nat) : Meter :=
  if count = 0 then m else m.launched work

/-- The counters when some more launches and read-backs have been made. -/
def Meter.plus (m : Meter) (light heavy readbacks : Nat) : Meter :=
  ⟨m.light + light, m.heavy + heavy, m.readbacks + readbacks⟩

theorem Fault.ok_bind (a : α) (next : α → Except Fault β) : (Except.ok a >>= next) = next a := rfl

theorem Fault.fetch_eq_ok {xs : Array α} {i : Nat} {x : α} (found : xs[i]? = some x) : Fault.fetch xs i = .ok x := by
  rw [Fault.fetch, found]

theorem Fault.check_eq_ok {holds : Bool} (fact : holds = true) (assertion : String) :
    Fault.check holds assertion = .ok () := by
  rw [Fault.check, if_pos fact]

theorem Fault.check_of {fact : Prop} {decision : Decidable fact} (holds : fact) (assertion : String) :
    Fault.check (decide fact) assertion = .ok () :=
  Fault.check_eq_ok (decide_eq_true holds) assertion

namespace Metered

theorem mapM_eq_ok_of_getElem? {f : α → Except Fault β} {xs : List α} {ys : List β} (same : xs.length = ys.length)
    (steps : ∀ (i : Nat) x y, xs[i]? = some x → ys[i]? = some y → f x = .ok y) : xs.mapM f = .ok ys := by
  induction xs generalizing ys with
  | nil => rw [List.length_eq_zero_iff.1 same.symm]; rfl
  | cons x xs ih =>
    cases ys with
    | nil => cases same
    | cons y ys =>
      have rest : xs.mapM f = .ok ys :=
        ih (Nat.succ.inj same) fun i u v atU atV => steps (i + 1) u v (by simpa using atU) (by simpa using atV)
      rw [List.mapM_cons, steps 0 x y rfl rfl, rest]
      rfl

theorem mapM_eq_ok {f : α → Except Fault β} {g : α → β} {xs : List α} (steps : ∀ x ∈ xs, f x = .ok (g x)) :
    xs.mapM f = .ok (xs.map g) := by
  refine mapM_eq_ok_of_getElem? (List.length_map g).symm fun i x y atX atY => ?_
  rw [List.getElem?_map, atX] at atY
  cases atY
  exact steps x (List.mem_of_getElem? atX)

theorem numbered_eq_ok {body : Nat → α → Except Fault β} {data : List α} {ys : List β}
    (same : data.length = ys.length) (steps : ∀ i x y, data[i]? = some x → ys[i]? = some y → body i x = .ok y) :
    numbered body data = .ok ys := by
  refine mapM_eq_ok_of_getElem? (by rw [List.length_zipIdx, same]) fun i p y atP atY => ?_
  rw [List.getElem?_zipIdx] at atP
  obtain ⟨x, atX, rfl⟩ := Option.map_eq_some_iff.1 atP
  rw [Nat.zero_add]
  exact steps i x y atX atY

/-- Each task puts its own element of the outcome into place. -/
theorem leads_eachElement {work : Work} {body : Nat → α → Except Fault α} {data : List α} {m : Meter}
    {done : List α → Meter → Prop} {failed : Failure → Meter → Prop} (ys : List α) (same : data.length = ys.length)
    (steps : ∀ i x y, data[i]? = some x → ys[i]? = some y → body i x = .ok y) :
    Leads (eachElement work body data) m done failed ↔ done ys (m.launchedOver work ys.length) := by
  cases data with
  | nil =>
    rw [List.length_eq_zero_iff.1 same.symm]
    exact Iff.rfl
  | cons x data =>
    have some : ys.length ≠ 0 := by
      rw [← same]
      exact Nat.succ_ne_zero _
    simp only [eachElement, List.isEmpty_cons, Bool.false_eq_true, if_false, Leads.bind_iff, leads_launch,
      numbered_eq_ok same steps, leads_ofFault_ok, Meter.launchedOver, some]

/-- Where each task adds its own element to something shared, they add all
elements in order. -/
theorem leads_eachIndex {σ : Type} {work : Work} {body : Nat → σ → Except Fault σ} {start : σ} {m : Meter}
    {done : σ → Meter → Prop} {failed : Failure → Meter → Prop} (xs : List α) (step : σ → α → σ)
    (steps : ∀ i x state, xs[i]? = some x → body i state = .ok (step state x)) :
    Leads (eachIndex work xs.length body start) m done failed ↔
      done (xs.foldl step start) (m.launchedOver work xs.length) := by
  have folded (n : Nat) (small : n ≤ xs.length) :
      (List.range n).foldlM (fun state i => body i state) start = .ok ((xs.take n).foldl step start) := by
    induction n with
    | zero => rfl
    | succ n ih =>
      have found : xs[n]? = some xs[n] := List.getElem?_eq_getElem small
      rw [List.range_succ, List.foldlM_append, ih (Nat.le_of_lt small), Fault.ok_bind, List.foldlM_cons,
        steps n xs[n] _ found, List.take_add_one, found, List.foldl_append]
      rfl
  unfold eachIndex Meter.launchedOver
  by_cases none : xs.length = 0
  · rw [if_pos none, if_pos none, List.length_eq_zero_iff.1 none]
    exact Iff.rfl
  · rw [if_neg none, if_neg none, folded _ (Nat.le_refl _), List.take_length]
    exact Iff.rfl

theorem pieces_eq_map (size : Nat) (data : List α) :
    pieces size data =
      (List.range ((data.length + size - 1) / size)).map fun i => (data.drop (i * size)).take size := by
  unfold pieces
  refine List.map_congr_left fun i _ => ?_
  rw [Array.toList_extract, List.extract_eq_take_drop]
  congr 1
  omega

theorem flatten_range (size : Nat) (data : List α) (count : Nat) :
    ((List.range count).map fun i => (data.drop (i * size)).take size).flatten = data.take (count * size) := by
  induction count with
  | zero => simp
  | succ count ih =>
    rw [List.range_succ, List.map_append, List.flatten_append, ih, Nat.succ_mul, List.take_add]
    simp

/-- The pieces of a list make up the list. -/
theorem flatten_pieces {size : Nat} (positive : 0 < size) (data : List α) :
    (pieces size data).flatten = data := by
  rw [pieces_eq_map, flatten_range, List.take_of_length_le]
  have covered := Nat.lt_div_mul_add positive (a := data.length + size - 1)
  omega

section EvenPieces

variable {size count : Nat} {data : List α}

theorem length_pieces (positive : 0 < size) (whole : data.length = count * size) :
    (pieces size data).length = count := by
  rw [pieces_eq_map, List.length_map, List.length_range, whole, Nat.add_sub_assoc positive, Nat.mul_comm,
    Nat.mul_add_div positive, Nat.div_eq_of_lt (by omega), Nat.add_zero]

theorem length_of_mem_pieces (positive : 0 < size) (whole : data.length = count * size) {piece : List α}
    (member : piece ∈ pieces size data) : piece.length = size := by
  have all := length_pieces positive whole
  rw [pieces_eq_map] at member all
  obtain ⟨i, inRange, rfl⟩ := List.mem_map.1 member
  rw [List.length_map, List.length_range] at all
  rw [all, List.mem_range] at inRange
  have room : i * size + size ≤ count * size := by
    rw [← Nat.succ_mul]
    exact Nat.mul_le_mul_right size inRange
  rw [List.length_take, List.length_drop, whole]
  omega

theorem map_length_pieces (positive : 0 < size) (whole : data.length = count * size) :
    (pieces size data).map List.length = List.replicate count size := by
  refine List.eq_replicate_iff.2 ⟨by rw [List.length_map, length_pieces positive whole], fun n member => ?_⟩
  obtain ⟨piece, inside, rfl⟩ := List.mem_map.1 member
  exact length_of_mem_pieces positive whole inside

end EvenPieces

theorem map_length_pieces_congr {size : Nat} {xs : List α} {ys : List β} (same : xs.length = ys.length) :
    (pieces size xs).map List.length = (pieces size ys).map List.length := by
  simp [pieces_eq_map, same, Function.comp_def]

/-- Where pieces come out even, each task puts its own piece of the outcome
into place. -/
theorem leads_eachPiece {work : Work} {size : Nat} {body : Nat → List α → Except Fault (List α)}
    {data : List α} {parts : List (List α)} {m : Meter} {done : List α → Meter → Prop}
    {failed : Failure → Meter → Prop} (positive : 0 < size) (whole : data.length = parts.length * size)
    (steps : ∀ i part, parts[i]? = some part → ∀ piece : List α, piece.length = size → body i piece = .ok part) :
    Leads (eachPiece work size body data) m done failed ↔
      done parts.flatten (m.launchedOver work parts.length) := by
  have nonzero : size ≠ 0 := Nat.ne_of_gt positive
  cases data with
  | nil =>
    have none : parts = [] := List.length_eq_zero_iff.1 ((Nat.mul_eq_zero.1 whole.symm).resolve_right nonzero)
    subst none
    exact Iff.rfl
  | cons x data =>
    have some : parts.length ≠ 0 := by
      intro none
      rw [none, Nat.zero_mul] at whole
      cases whole
    have made : numbered body (pieces size (x :: data)) = .ok parts :=
      numbered_eq_ok (length_pieces positive whole) fun i piece part atPiece atPart =>
        steps i part atPart piece (length_of_mem_pieces positive whole (List.mem_of_getElem? atPiece))
    simp only [eachPiece, List.isEmpty_cons, Bool.false_eq_true, if_false, nonzero, Leads.bind_iff,
      leads_launch, made, leads_ofFault_ok, Leads.pure_iff, Meter.launchedOver, some]

end Metered

end ContactGrid
