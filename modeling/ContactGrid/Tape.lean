import ContactGrid.Failure

namespace ContactGrid

/-- Which growths the memory grants, by label and number of cells. -/
structure Memory where
  grants : String → Nat → Bool

/-- No address space holds as many cells. -/
def Memory.machine : Memory :=
  ⟨fun _ size => size < Nat.pow 2 47⟩

/-- A tape has more cells than its length shows, and never fewer. The hidden
cells keep what they hold. -/
structure Tape (α : Type) where
  label : String
  cells : List α
  length : Nat
  length_le : length ≤ cells.length

namespace Tape

variable {α : Type}

def empty (label : String) : Tape α :=
  ⟨label, [], 0, Nat.le_refl 0⟩

instance : Inhabited (Tape α) where
  default := empty "buffer"

def capacity (t : Tape α) : Nat :=
  t.cells.length

def isEmpty (t : Tape α) : Bool :=
  t.length = 0

/-- The visible cells. -/
def contents (t : Tape α) : List α :=
  t.cells.take t.length

def get? (t : Tape α) (i : Nat) : Option α :=
  if i < t.length then t.cells[i]? else none

def clear (t : Tape α) : Tape α :=
  ⟨t.label, t.cells, 0, Nat.zero_le _⟩

/-- The tape with untouched cells added up to a capacity. -/
def extended [Inhabited α] (t : Tape α) (capacity : Nat) : Tape α where
  label := t.label
  cells := t.cells ++ List.replicate (capacity - t.cells.length) default
  length := t.length
  length_le := by have := t.length_le; simp; omega

/-- The same cells with the first `n` visible, or all of them if there are
fewer. -/
def shown (t : Tape α) (n : Nat) : Tape α :=
  ⟨t.label, t.cells, min n t.cells.length, Nat.min_le_right _ _⟩

/-- Makes room for `n` cells, and never gives room back. -/
def reserve [Inhabited α] (memory : Memory) (t : Tape α) (n : Nat) : Except Refusal (Tape α) :=
  if n ≤ t.capacity then .ok t
  else if memory.grants t.label n then .ok (t.extended n)
  else .error (.capacity n t.label)

/-- Makes `n` cells visible. Cells that come into sight hold what they held
before. -/
def resize [Inhabited α] (memory : Memory) (t : Tape α) (n : Nat) : Except Refusal (Tape α) :=
  (t.reserve memory n).map (·.shown n)

/-- Writes values over the first visible cells; values beyond the length are
lost. -/
def write (t : Tape α) (values : List α) : Tape α where
  label := t.label
  cells := values.take t.length ++ t.cells.drop (values.take t.length).length
  length := t.length
  length_le := by have := t.length_le; simp; omega

def fill (t : Tape α) (value : α) : Tape α :=
  t.write (List.replicate t.length value)

/-- Replaces the contents. -/
def upload [Inhabited α] (memory : Memory) (t : Tape α) (values : List α) : Except Refusal (Tape α) :=
  (t.resize memory values.length).map (·.write values)

/-- Writes one visible cell. -/
def set (t : Tape α) (i : Nat) (value : α) : Except Fault (Tape α) :=
  if i < t.length then
    .ok ⟨t.label, t.cells.set i value, t.length, by simpa using t.length_le⟩
  else .error (.outOfRange i t.length)

@[simp]
theorem length_contents (t : Tape α) : t.contents.length = t.length := by
  simp [contents, t.length_le]

theorem get?_eq_getElem? (t : Tape α) (i : Nat) : t.get? i = t.contents[i]? := by
  simp [get?, contents, List.getElem?_take]

@[simp]
theorem contents_clear (t : Tape α) : t.clear.contents = [] := rfl

@[simp]
theorem capacity_extended [Inhabited α] (t : Tape α) (n : Nat) :
    (t.extended n).capacity = max n t.capacity := by
  simp [extended, capacity]
  omega

@[simp]
theorem contents_extended [Inhabited α] (t : Tape α) (n : Nat) : (t.extended n).contents = t.contents := by
  simp [extended, contents, List.take_append_of_le_length t.length_le]

@[simp]
theorem capacity_write (t : Tape α) (values : List α) : (t.write values).capacity = t.capacity := by
  have := t.length_le
  simp [write, capacity]
  omega

theorem contents_write {t : Tape α} {values : List α} (fits : values.length = t.length) :
    (t.write values).contents = values := by
  simp [write, contents, ← fits]

@[simp]
theorem contents_fill (t : Tape α) (value : α) : (t.fill value).contents = List.replicate t.length value :=
  contents_write (List.length_replicate ..)

theorem capacity_of_reserve [Inhabited α] {memory : Memory} {t u : Tape α} {n : Nat}
    (granted : t.reserve memory n = .ok u) : u.capacity = max n t.capacity := by
  unfold reserve at granted
  split at granted
  · cases granted
    omega
  · split at granted <;> cases granted
    exact capacity_extended t n

theorem length_of_resize [Inhabited α] {memory : Memory} {t u : Tape α} {n : Nat}
    (granted : t.resize memory n = .ok u) : u.length = n := by
  cases reserved : t.reserve memory n with
  | error r => simp [resize, reserved, Except.map] at granted
  | ok v =>
    have room := capacity_of_reserve reserved
    simp only [resize, reserved, Except.map, Except.ok.injEq] at granted
    simp only [← granted, shown]
    simp only [capacity] at room
    omega

theorem contents_of_upload [Inhabited α] {memory : Memory} {t u : Tape α} {values : List α}
    (granted : t.upload memory values = .ok u) : u.contents = values := by
  cases resized : t.resize memory values.length with
  | error r => simp [upload, resized, Except.map] at granted
  | ok v =>
    simp only [upload, resized, Except.map, Except.ok.injEq] at granted
    rw [← granted]
    exact contents_write (length_of_resize resized).symm

end Tape

end ContactGrid
