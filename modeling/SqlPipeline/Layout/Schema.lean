/-
The layout of a record: its columns one after the other, without gaps.

* `Layout.Column` — a column with its type and its place;
* `Layout.Schema` — the columns of a record, which carries the proof that they fit their types and
  leave no gaps;
* `Layout.Schema.push`, `Layout.Schema.append` — a column at the end, and its number;
* `Layout.Schema.retype` — a column with another type; the columns after it move.
-/

import SqlPipeline.Layout.Storage

set_option autoImplicit false

namespace SqlPipeline.Layout

/-- A column of a record. -/
structure Column where
  name : String
  /-- The number of bytes it takes. -/
  size : Nat
  type : Storage
  /-- The number of bytes before it. -/
  offset : Nat
  deriving DecidableEq, Repr, Inhabited

/-! ### Places -/

/-- The columns, placed one after the other from an offset on. -/
def placedFrom (offset : Nat) : List Column → List Column
  | [] => []
  | c :: cs => { c with offset } :: placedFrom (offset + c.size) cs

/-- Columns that are placed anew change in nothing but their places. -/
theorem map_placedFrom {α : Type} {f : Column → α} (hf : ∀ c offset, f { c with offset } = f c)
    (offset : Nat) (cs : List Column) : (placedFrom offset cs).map f = cs.map f := by
  induction cs generalizing offset with
  | nil => rfl
  | cons c cs ih => rw [placedFrom, List.map_cons, List.map_cons, hf, ih]

/-- The last column is placed after the bytes of those before it. -/
theorem placedFrom_concat (offset : Nat) (cs : List Column) (c : Column) :
    placedFrom offset (cs ++ [c]) = placedFrom offset cs
      ++ [{ c with offset := offset + (cs.map Column.size).foldr (· + ·) 0 }] := by
  induction cs generalizing offset with
  | nil => rfl
  | cons c' cs ih =>
      rw [List.cons_append, placedFrom, ih, placedFrom, List.cons_append, List.map_cons,
        List.foldr_cons, Nat.add_assoc]

/-- Columns that are placed stay where they are when they are placed again. -/
theorem placedFrom_placedFrom (offset : Nat) (cs : List Column) :
    placedFrom offset (placedFrom offset cs) = placedFrom offset cs := by
  induction cs generalizing offset with
  | nil => rfl
  | cons c cs ih => rw [placedFrom, placedFrom, ih]

/-! ### Sizes -/

/-- Each column takes as many bytes as its type. -/
def Sized (cs : List Column) : Prop :=
  ∀ c ∈ cs, c.size = c.type.width

instance (cs : List Column) : Decidable (Sized cs) :=
  inferInstanceAs (Decidable (∀ c ∈ cs, c.size = c.type.width))

section

variable {cs : List Column}

theorem Sized.concat (h : Sized cs) {c : Column} (hc : c.size = c.type.width) :
    Sized (cs ++ [c]) :=
  List.forall_mem_append.2 ⟨h, List.forall_mem_singleton.2 hc⟩

theorem Sized.placedFrom (h : Sized cs) (offset : Nat) : Sized (placedFrom offset cs) := by
  induction cs generalizing offset with
  | nil => exact h
  | cons c cs ih =>
      obtain ⟨hc, hcs⟩ := List.forall_mem_cons.1 h
      exact List.forall_mem_cons.2 ⟨hc, ih hcs _⟩

/-- A column with another type has the size of that type, and the others keep theirs. -/
theorem Sized.modify (h : Sized cs) (i : Nat) (type : Storage) :
    Sized (cs.modify i fun c => { c with type, size := type.width }) := by
  intro c hc
  obtain ⟨j, hj⟩ := List.mem_iff_getElem?.1 hc
  rw [List.getElem?_modify] at hj
  obtain ⟨c', hc', rfl⟩ := Option.map_eq_some_iff.1 hj
  split
  · rfl
  · exact h c' (List.mem_of_getElem? hc')

end

/-! ### Layouts -/

/-- The layout of a record.  Each column takes as many bytes as its type, and stands where the one
before it ends. -/
@[ext]
structure Schema where
  columns : List Column
  sized : Sized columns
  placed : placedFrom 0 columns = columns
  deriving DecidableEq, Repr

namespace Schema

def empty : Schema := ⟨[], List.forall_mem_nil _, rfl⟩

instance : Inhabited Schema := ⟨empty⟩

def length (s : Schema) : Nat :=
  s.columns.length

/-- The number of bytes a record takes. -/
def recordSize (s : Schema) : Nat :=
  (s.columns.map Column.size).foldr (· + ·) 0

def column? (s : Schema) (i : Nat) : Option Column :=
  s.columns[i]?

def type? (s : Schema) (i : Nat) : Option Storage :=
  (s.column? i).map Column.type

/-- The column that a name and a type make at the end of a record. -/
def next (s : Schema) (name : String) (type : Storage) : Column :=
  { name, size := type.width, type, offset := s.recordSize }

def push (s : Schema) (name : String) (type : Storage) : Schema :=
  { columns := s.columns ++ [s.next name type]
    sized := s.sized.concat rfl
    placed := by rw [placedFrom_concat, s.placed, Nat.zero_add, next, recordSize] }

/-- The layout with a column at the end, and the number of that column, which is the last one. -/
def append (s : Schema) (name : String) (type : Storage) : Schema × Nat :=
  let longer := s.push name type
  (longer, longer.length - 1)

/-- The layout with another type for one column; a number without a column changes nothing. -/
def retype (s : Schema) (i : Nat) (type : Storage) : Schema :=
  { columns := placedFrom 0 (s.columns.modify i fun c => { c with type, size := type.width })
    sized := (s.sized.modify i type).placedFrom 0
    placed := placedFrom_placedFrom 0 _ }

/-! ### Views -/

theorem columns_push (s : Schema) (name : String) (type : Storage) :
    (s.push name type).columns = s.columns ++ [s.next name type] := rfl

theorem columns_retype (s : Schema) (i : Nat) (type : Storage) : (s.retype i type).columns
    = placedFrom 0 (s.columns.modify i fun c => { c with type, size := type.width }) := rfl

@[simp] theorem length_push (s : Schema) (name : String) (type : Storage) :
    (s.push name type).length = s.length + 1 := by
  simp [length, columns_push]

@[simp] theorem column?_push_length (s : Schema) (name : String) (type : Storage) :
    (s.push name type).column? s.length = some (s.next name type) := by
  simp [column?, length, columns_push]

theorem column?_push_of_lt {s : Schema} {i : Nat} (hi : i < s.length) (name : String)
    (type : Storage) : (s.push name type).column? i = s.column? i :=
  List.getElem?_append_left hi

@[simp] theorem append_fst (s : Schema) (name : String) (type : Storage) :
    (s.append name type).1 = s.push name type := rfl

@[simp] theorem append_snd (s : Schema) (name : String) (type : Storage) :
    (s.append name type).2 = s.length := by
  simp [append]

end Schema

end SqlPipeline.Layout
