import ContactGrid.Proofs.Histories
import ContactGrid.Proofs.Ownership
import Mathlib.Data.List.Basic
import Std.Data.String.ToInt

namespace ContactGrid

/-- What stands between the separators of a text. -/
def parts (separator : Char) (text : String) : List String :=
  (text.split separator).toList.map (·.copy)

/-- The number that binary digits stand for. -/
def binaryValue (digits : String) : Nat :=
  Nat.ofDigitChars 2 digits.toList 0

/-- The record that a line stands for. The last column follows from the
others. -/
def Entry.read? (line : String) : Option Entry :=
  match parts ',' line with
  | [bucket, object, x, y, z, cell, home, mask, direction, _] => do
    return {
      bucket := ← bucket.toNat?
      object := ← object.toNat?
      cell := ⟨← x.toInt?, ← y.toInt?, ← z.toInt?⟩
      tag := .pack (← cell.toNat?) (← home.toNat?) (binaryValue mask) (binaryValue direction) }
  | _ => none

section Texts

variable {c separator : Char} {texts : List String}

theorem parts_intercalate (some : texts ≠ []) (apart : ∀ text ∈ texts, separator ∉ text.toList) :
    parts separator ((String.singleton separator).intercalate texts) = texts := by
  rw [parts, String.toList_split_intercalate apart, if_neg some]

theorem not_mem_intercalate {glue : String} (outside : c ∉ glue.toList) (apart : ∀ text ∈ texts, c ∉ text.toList) :
    c ∉ (glue.intercalate texts).toList := by
  induction texts with
  | nil => rw [String.intercalate_nil]; exact List.not_mem_nil
  | cons text texts ih =>
    obtain ⟨first, rest⟩ := List.forall_mem_cons.1 apart
    by_cases last : texts = []
    · rwa [last, String.intercalate_singleton]
    · rw [String.intercalate_cons_of_ne_nil last, String.toList_append, String.toList_append]
      simp only [List.mem_append, not_or]
      exact ⟨⟨first, outside⟩, ih rest⟩

/-- Ending every line is the same as separating the lines and an empty one
behind them. -/
theorem join_lines (lines : List String) :
    String.join (lines.map (· ++ "\n")) = "\n".intercalate (lines ++ [""]) := by
  induction lines with
  | nil => rfl
  | cons line lines ih =>
    rw [List.map_cons, String.join_cons, ih, List.cons_append, String.intercalate_cons_of_ne_nil (by simp)]

end Texts

section Columns

variable {c : Char}

theorem not_mem_natText (other : c.isDigit = false) (n : Nat) : c ∉ (toString n).toList := by
  rw [Nat.toString_eq_repr, Nat.toList_repr]
  intro member
  exact absurd (Nat.isDigit_of_mem_toDigits (by decide) (by decide) member) (by rw [other]; decide)

theorem not_mem_intText (other : c.isDigit = false) (unsigned : c ≠ '-') (i : Int) : c ∉ (toString i).toList := by
  rw [Int.toString_eq_repr, Int.repr_eq_if]
  split
  · exact not_mem_natText other _
  · rw [String.toList_append]
    simp only [List.mem_append, not_or]
    exact ⟨by simpa using unsigned, not_mem_natText other _⟩

theorem not_mem_binaryText (other : c.isDigit = false) (digits n : Nat) : c ∉ (binaryText digits n).toList := by
  induction digits generalizing n with
  | zero => exact List.not_mem_nil
  | succ digits ih =>
    rw [binaryText, String.toList_append]
    simp only [List.mem_append, not_or]
    refine ⟨ih _, ?_⟩
    split <;> simp <;> rintro rfl <;> cases other

theorem binaryValue_binaryText {digits n : Nat} (fits : n < 2 ^ digits) : binaryValue (binaryText digits n) = n := by
  induction digits generalizing n with
  | zero =>
    obtain rfl : n = 0 := by omega
    rfl
  | succ digits ih =>
    have half : Nat.ofDigitChars 2 (binaryText digits (n / 2)).toList 0 = n / 2 := ih (by omega)
    rw [binaryValue, binaryText, String.toList_append, Nat.ofDigitChars_append, half]
    split
    · rename_i even
      have value : Nat.ofDigitChars 2 "0".toList (n / 2) = 2 * (n / 2) := rfl
      omega
    · rename_i odd
      have value : Nat.ofDigitChars 2 "1".toList (n / 2) = 2 * (n / 2) + 1 := rfl
      omega

end Columns

/-- A word without bits outside its fields is what its fields are packed
to. -/
theorem Tag.pack_fields {t : Tag} (within : t.word < 2 ^ 17) : pack t.cell t.home t.mask t.direction = t := by
  obtain ⟨word⟩ := t
  simp only [pack, cell, home, mask, direction] at within ⊢
  congr 1
  omega

theorem Tag.word_pack_lt {cell home mask direction : Nat} (fits : Tag.fits cell home mask direction = true) :
    (pack cell home mask direction).word < 2 ^ 17 := by
  simp only [Tag.fits, Bool.and_eq_true, decide_eq_true_eq] at fits
  simp only [pack]
  omega

namespace Entry

variable {e : Entry}

theorem columns_apart {c : Char} (other : c.isDigit = false) (unsigned : c ≠ '-') (e : Entry) :
    ∀ column ∈ e.columns, c ∉ column.toList := by
  have home : c ∉ (if e.isHome then "1" else "0" : String).toList := by
    split <;> simp <;> rintro rfl <;> cases other
  simp only [columns, List.forall_mem_cons, List.not_mem_nil, false_imp_iff, implies_true, and_true]
  exact ⟨not_mem_natText other _, not_mem_natText other _, not_mem_intText other unsigned _,
    not_mem_intText other unsigned _, not_mem_intText other unsigned _, not_mem_natText other _,
    not_mem_natText other _, not_mem_binaryText other _ _, not_mem_binaryText other _ _, home⟩

theorem parts_text (e : Entry) : parts ',' e.text = e.columns :=
  parts_intercalate (List.cons_ne_nil _ _) (columns_apart (by decide) (by decide) e)

theorem not_mem_text (e : Entry) : '\n' ∉ e.text.toList :=
  not_mem_intercalate (by decide) (columns_apart (by decide) (by decide) e)

theorem length_parts_header : (parts ',' header).length = 10 := by
  have headings : header = ",".intercalate ["bucket", "object_id", "cell_x", "cell_y", "cell_z", "pass_type",
    "home_type", "overlap_mask", "block_dir", "is_home"] := by decide
  rw [headings]
  exact congrArg List.length (parts_intercalate (List.cons_ne_nil _ _) (by decide))

theorem read?_text (within : e.tag.word < 2 ^ 17) : read? e.text = some e := by
  have mask : binaryValue (binaryText 8 e.tag.mask) = e.tag.mask :=
    binaryValue_binaryText (Nat.mod_lt _ (by decide))
  have direction : binaryValue (binaryText 3 e.tag.direction) = e.tag.direction :=
    binaryValue_binaryText (Nat.mod_lt _ (by decide))
  simp only [read?, parts_text, columns, mask, direction, Nat.toString_eq_repr, Int.toString_eq_repr, Nat.toNat?_repr,
    Int.toInt?_repr, Option.bind_eq_bind, Option.bind_some, Tag.pack_fields within]
  rfl

theorem parts_table (records : List Entry) :
    parts '\n' (String.join ((header :: records.map text).map (· ++ "\n"))) = header :: records.map text ++ [""] := by
  rw [join_lines]
  refine parts_intercalate (by simp) fun line member => ?_
  simp only [List.cons_append, List.mem_cons, List.mem_append, List.mem_map, List.not_mem_nil, or_false] at member
  rcases member with rfl | ⟨e, _, rfl⟩ | rfl
  · decide
  · exact not_mem_text e
  · exact List.not_mem_nil

end Entry

theorem Grid.tag_within_of_mem_records {g : Grid Float32} {spheres : List (Sphere Float32)} {e : Entry}
    (member : e ∈ g.records spheres) : e.tag.word < 2 ^ 17 := by
  obtain ⟨k, used, inside⟩ := List.mem_flatMap.1 member
  obtain ⟨slot, rfl⟩ := mem_slotsOf.1 inside
  obtain ⟨s, _, recorded⟩ := (mem_allSlots (mem_usedBuckets.1 used).1).1 slot
  obtain ⟨c, _, same⟩ := mem_entries.1 recorded
  rw [same]
  refine Tag.word_pack_lt ?_
  simp only [Tag.fits, Bool.and_eq_true, decide_eq_true_eq]
  exact ⟨⟨⟨c.parity_lt, Cell.parity_lt _⟩, parityMask_lt _⟩, Entry.directionBits_lt _⟩

namespace Index

variable {x : Index} {last : Option (Grid Float32)}

theorem Kept.tags_within (kept : x.Kept last) :
    ∃ records, x.records = .ok records ∧ ∀ e ∈ records, e.tag.word < 2 ^ 17 := by
  by_cases stage : x.stage = .grouped
  · obtain ⟨g, _, built⟩ := kept.built stage
    exact ⟨_, built.records_eq_ok, fun _ member => Grid.tag_within_of_mem_records member⟩
  · exact ⟨[], records_of_ungrouped (kept.ungrouped stage), fun _ none => absurd none List.not_mem_nil⟩

theorem recordsText_eq_ok {records : List Entry} (read : x.records = .ok records) :
    x.recordsText = .ok (String.join ((Entry.header :: records.map Entry.text).map (· ++ "\n"))) := by
  rw [recordsText, read]
  rfl

/-- The text of the records is a header and one line for each record, in
order. A line has as many columns as the header and can be read back, since
a tag of a record has no bits outside its four fields. So the text of
another index is the same only if its records are. -/
theorem Reached.text_faithful (reached : x.Reached last) :
    ∃ records text, x.records = .ok records ∧ x.recordsText = .ok text ∧
      parts '\n' text = Entry.header :: records.map Entry.text ++ [""] ∧
      (∀ e ∈ records, e.tag.word < 2 ^ 17 ∧ (parts ',' e.text).length = (parts ',' Entry.header).length ∧
        Entry.read? e.text = some e) ∧
      ∀ (y : Index) last', y.Reached last' → y.recordsText = .ok text → y.records = .ok records := by
  obtain ⟨records, read, within⟩ := reached.kept.tags_within
  refine ⟨records, _, read, recordsText_eq_ok read, Entry.parts_table records, fun e member => ?_, ?_⟩
  · rw [Entry.parts_text, Entry.length_parts_header]
    exact ⟨within e member, rfl, Entry.read?_text (within e member)⟩
  · intro y last' reached' same
    obtain ⟨others, read', within'⟩ := reached'.kept.tags_within
    -- The lines of equal texts are equal, and each is read back as one
    -- record.
    have texts := Except.ok.inj ((recordsText_eq_ok read').symm.trans same)
    have lines := congrArg (parts '\n') texts
    rw [Entry.parts_table, Entry.parts_table] at lines
    have bodies : others.map Entry.text = records.map Entry.text :=
      (List.append_inj_left' lines rfl |> List.cons.inj).2
    have recovered {es : List Entry} (small : ∀ e ∈ es, e.tag.word < 2 ^ 17) :
        (es.map Entry.text).map Entry.read? = es.map some := by
      rw [List.map_map]
      exact List.map_congr_left fun e member => Entry.read?_text (small e member)
    have equal := congrArg (List.map Entry.read?) bodies
    rw [recovered within, recovered within'] at equal
    rw [read', List.map_injective_iff.2 (Option.some_injective _) equal]

end Index

/-- The row has 22 records. The third is the phantom of the first sphere
across an edge of its home cell. -/
theorem Session.row_text : (∃ last, Session.row.index.Reached last) ∧
    ∃ text, Session.row.index.recordsText = .ok text ∧ (parts '\n' text).length = 24 ∧
      (parts '\n' text)[3]? = some "1023,0,0,-1,-1,3,0,01111111,000,0" ∧
      Entry.read? "1023,0,0,-1,-1,3,0,01111111,000,0" = some ⟨1023, 0, ⟨0, -1, -1⟩, .pack 3 0 127 0⟩ := by
  obtain ⟨last, reached⟩ := Session.row_reached
  obtain ⟨records, text, read, written, lines, each, _⟩ := reached.text_faithful
  have count : Session.row.index.records.map List.length = .ok 22 := by decide +kernel
  have third : Session.row.index.records.map (·[2]?) =
      .ok (some ⟨1023, 0, ⟨0, -1, -1⟩, .pack 3 0 127 0⟩) := by decide +kernel
  rw [read] at count third
  have count : records.length = 22 := Except.ok.inj count
  have third : records[2]? = some ⟨1023, 0, ⟨0, -1, -1⟩, .pack 3 0 127 0⟩ := Except.ok.inj third
  have spelled : Entry.text ⟨1023, 0, ⟨0, -1, -1⟩, .pack 3 0 127 0⟩ = "1023,0,0,-1,-1,3,0,01111111,000,0" := by
    decide +kernel
  have recovered := (each _ (List.mem_of_getElem? third)).2.2
  rw [spelled] at recovered
  refine ⟨⟨last, reached⟩, text, written, ?_, ?_, recovered⟩
  · rw [lines]
    simp [count]
  · rw [lines, List.cons_append, List.getElem?_cons_succ,
      List.getElem?_append_left (by rw [List.length_map, count]; decide), List.getElem?_map, third]
    exact congrArg some spelled

end ContactGrid
