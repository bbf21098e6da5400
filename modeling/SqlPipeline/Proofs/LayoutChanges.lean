/-
**Columns stand one after the other, whatever was done to a layout.**

A column is added after the bytes that the columns before it take, which are counted from the sizes
that these columns store.  A column with another type takes its new size, and then all columns are
placed anew.  The two ways to find a place have nothing in common but the sizes, so they agree only
as long as every size fits its type and every place fits the sizes before it.  A layout carries the
proof of that, and each way to change it gives the proof anew; here it is shown what follows for the
columns, and that a layout is nothing but what can be made by these changes.

Main definitions:

* `Layout.Schema.Made` — a layout that is made from the empty one by adding columns and changing
  types.

Main results:

* `Layout.Schema.ext_of_map` — a layout is known from its names and types;
* `Layout.Schema.retype_of_length_le` — a type for a column that is not there changes nothing;
* `Layout.Schema.made` — every layout is made from the empty one;
* `Layout.Schema.layout_of_made` — **the layout after any changes, and what the next one does**.
-/

import SqlPipeline.Proofs.GroupLayout

set_option autoImplicit false

namespace SqlPipeline.Layout

/-! ### Names and types are enough -/

theorem Sized.map_size {cs : List Column} (h : Sized cs) :
    cs.map Column.size = (cs.map Column.type).map Storage.width := by
  rw [List.map_map]
  exact List.map_congr_left h

namespace Schema

variable {s s' : Schema}

/-- A layout is known from its names and types. -/
theorem ext_of_map (hnames : s.columns.map Column.name = s'.columns.map Column.name)
    (htypes : s.columns.map Column.type = s'.columns.map Column.type) : s = s' := by
  have hsizes : s.columns.map Column.size = s'.columns.map Column.size := by
    rw [s.sized.map_size, s'.sized.map_size, htypes]
  have hlength : s.columns.length = s'.columns.length := by
    simpa using congrArg List.length hnames
  refine Schema.ext (List.ext_getElem hlength fun i hi hi' => ?_)
  have field : ∀ {α : Type} {f : Column → α}, s.columns.map f = s'.columns.map f →
      f s.columns[i] = f s'.columns[i] := by
    intro α f hf
    simpa [hi, hi'] using congrArg (fun xs => xs[i]?) hf
  have hoffset : s.columns[i].offset = s'.columns[i].offset := by
    rw [offset_eq_sum (List.getElem?_eq_getElem hi), offset_eq_sum (List.getElem?_eq_getElem hi'),
      List.map_take, List.map_take, hsizes]
  exact congr (congr (congr (congrArg Column.mk (field hnames)) (field hsizes)) (field htypes))
    hoffset

/-- A type for a column that is not there changes nothing: all columns are placed anew, where they
are already. -/
theorem retype_of_length_le {i : Nat} (hi : s.length ≤ i) (type : Storage) :
    s.retype i type = s := by
  refine ext_of_map (map_name_retype s i type) ?_
  rw [columns_retype, map_placedFrom fun _ _ => rfl, List.modify_eq_self hi]

/-! ### All changes -/

/-- A layout that is made from the empty one by adding columns and changing types, in any order.  A
type may be given to a column that is not there. -/
inductive Made : Schema → Prop
  | empty : Made .empty
  | append {s : Schema} (name : String) (type : Storage) : Made s → Made (s.append name type).1
  | retype {s : Schema} (i : Nat) (type : Storage) : Made s → Made (s.retype i type)

/-- The layout with columns of the names and types of the given ones at the end. -/
def appendAll (s : Schema) (cs : List Column) : Schema :=
  cs.foldl (fun s c => (s.append c.name c.type).1) s

theorem map_appendAll {α : Type} {f : Column → α}
    (hf : ∀ (s : Schema) (c : Column), f (s.next c.name c.type) = f c) (s : Schema)
    (cs : List Column) : (s.appendAll cs).columns.map f = s.columns.map f ++ cs.map f := by
  induction cs generalizing s with
  | nil => exact (List.append_nil _).symm
  | cons c cs ih =>
      calc ((s.append c.name c.type).1.appendAll cs).columns.map f
          = (s.push c.name c.type).columns.map f ++ cs.map f := ih _
        _ = s.columns.map f ++ (c :: cs).map f := by
            rw [columns_push, List.map_append, List.map_singleton, hf, List.append_assoc]
            rfl

theorem Made.appendAll (h : s.Made) (cs : List Column) : (s.appendAll cs).Made := by
  induction cs generalizing s with
  | nil => exact h
  | cons c cs ih => exact ih (h.append c.name c.type)

/-- Every layout is made from the empty one, even by adding columns alone. -/
theorem made (s : Schema) : s.Made := by
  have hs : empty.appendAll s.columns = s :=
    ext_of_map (map_appendAll (fun _ _ => rfl) empty s.columns)
      (map_appendAll (fun _ _ => rfl) empty s.columns)
  rw [← hs]
  exact Made.empty.appendAll s.columns

/-- **The layout after any changes, and what the next one does.**  The layouts are those that are
made by changes.  Each column has the size of its
type and stands after the columns before it, and a record takes the bytes of all columns.  A new
column gets the next number and leaves those before it as they are.  Another type for a column
changes neither the number of columns nor their names, and no other type; a type for a column that
is not there changes nothing. -/
theorem layout_of_made (s : Schema) :
    s.Made ∧
    (∀ i c, s.column? i = some c →
      c.size = c.type.width ∧ c.offset = ((s.columns.take i).map Column.size).sum) ∧
    s.recordSize = (s.columns.map Column.size).sum ∧
    (∀ name type,
      (s.append name type).1.length = s.length + 1 ∧ (s.append name type).2 = s.length ∧
      (s.append name type).1.column? s.length = some ⟨name, type.width, type, s.recordSize⟩ ∧
      ∀ i < s.length, (s.append name type).1.column? i = s.column? i) ∧
    ∀ i type,
      (s.retype i type).length = s.length ∧
      (s.retype i type).columns.map Column.name = s.columns.map Column.name ∧
      (∀ j, (s.retype i type).type? j
        = if i = j then (s.type? j).map fun _ => type else s.type? j) ∧
      (s.length ≤ i → s.retype i type = s) := by
  refine ⟨made s, fun i c hc => ⟨size_eq_width hc, offset_eq_sum hc⟩, rfl, fun name type => ?_,
    fun i type => ?_⟩
  · exact ⟨length_push s name type, append_snd s name type, column?_push_length s name type,
      fun i hi => column?_push_of_lt hi name type⟩
  · exact ⟨Plan.length_retype s i type, map_name_retype s i type, fun j => type?_retype s i j type,
      fun hi => retype_of_length_le hi type⟩

/-- Two columns, of which the first is widened before a third comes after them, and a type for a
column that is not there. -/
def readings : Schema :=
  ((((Schema.empty.append "id" .int32).1.append "temp" .int32).1.retype 0 .double).append
    "hum" .int64).1.retype 7 .float

theorem layout_of_made_readings :
    readings.Made ∧ readings.recordSize = 20 ∧
    readings.column? 2 = some ⟨"hum", 8, .int64, 12⟩ ∧
    12 = ((readings.columns.take 2).map Column.size).sum ∧
    (readings.append "wind" .uint32).2 = 3 ∧ readings.retype 3 .double = readings := by
  obtain ⟨hmade, hplaced, hsize, happend, hretype⟩ := layout_of_made readings
  refine ⟨hmade, hsize.trans (by decide), by decide, ?_, ?_, ?_⟩
  · exact (hplaced 2 ⟨"hum", 8, .int64, 12⟩ (by decide)).2
  · exact (happend "wind" .uint32).2.1
  · exact (hretype 3 .double).2.2.2 (by decide)

end Schema

end SqlPipeline.Layout
