/-
The catalog: tables by name, whatever the case of its letters.

* `Catalog.Store` — the tables, each under its name in lower case, in the order of these keys; a
  catalog carries the proof that they are;
* `Catalog.Store.table?` — a table by its name;
* `Catalog.Store.put` — a table in place of the one with the same name, or beside the others;
* `Catalog.Store.register` — a table that must be new.
-/

import SqlPipeline.Catalog.Fault
import SqlPipeline.Catalog.Table

set_option autoImplicit false

namespace SqlPipeline.Catalog

/-! ### Entries -/

/-- Entries in the order of their keys, of which no two are equal. -/
def Ascending (es : List (String × Table)) : Prop :=
  es.Pairwise fun a b => a.1 < b.1

instance (es : List (String × Table)) : Decidable (Ascending es) :=
  inferInstanceAs (Decidable (es.Pairwise fun a b => a.1 < b.1))

/-- The entries with a table under a key, in the order of the keys. -/
def putEntry (key : String) (t : Table) : List (String × Table) → List (String × Table)
  | [] => [(key, t)]
  | (k, u) :: es =>
    if key < k then (key, t) :: (k, u) :: es
    else if key = k then (key, t) :: es
    else (k, u) :: putEntry key t es

section

variable {key : String} {t : Table} {es : List (String × Table)}

theorem mem_putEntry {e : String × Table} (h : e ∈ putEntry key t es) :
    e = (key, t) ∨ e ∈ es := by
  induction es with
  | nil => simpa [putEntry] using h
  | cons e' es ih =>
      rw [putEntry] at h
      split at h
      · simpa using h
      · split at h
        · rcases List.mem_cons.1 h with rfl | h
          · exact .inl rfl
          · exact .inr (List.mem_cons_of_mem _ h)
        · rcases List.mem_cons.1 h with rfl | h
          · exact .inr List.mem_cons_self
          · exact (ih h).imp_right (List.mem_cons_of_mem _)

/-- Putting a table in keeps the order of the keys. -/
theorem Ascending.putEntry (h : Ascending es) (key : String) (t : Table) :
    Ascending (putEntry key t es) := by
  unfold Ascending at h ⊢
  induction es with
  | nil => simp [Catalog.putEntry]
  | cons e es ih =>
      obtain ⟨hhead, htail⟩ := List.pairwise_cons.1 h
      rw [Catalog.putEntry]
      split
      · next hlt =>
          refine List.pairwise_cons.2 ⟨fun b hb => ?_, h⟩
          rcases List.mem_cons.1 hb with rfl | hb
          · exact hlt
          · exact String.lt_trans hlt (hhead b hb)
      · next hnlt =>
          split
          · next heq => exact List.pairwise_cons.2 ⟨fun b hb => heq ▸ hhead b hb, htail⟩
          · next hne =>
              -- the key belongs further back, so it is greater than the first one
              have hgt : e.1 < key := Std.lt_of_le_of_ne (String.not_lt.1 hnlt) (Ne.symm hne)
              refine List.pairwise_cons.2 ⟨fun b hb => ?_, ih htail⟩
              rcases mem_putEntry hb with rfl | hb
              · exact hgt
              · exact hhead b hb

end

/-! ### Catalogs -/

/-- The tables of a catalog, each under its name in lower case, in the order of these keys. -/
structure Store where
  entries : List (String × Table) := []
  key_eq : ∀ e ∈ entries, e.1 = Text.lower e.2.name := by decide
  ascending : Ascending entries := by decide
  deriving DecidableEq, Repr

namespace Store

def empty : Store := {}

instance : Inhabited Store := ⟨empty⟩

/-- The table of the given name, whatever the case of its letters. -/
def table? (s : Store) (name : String) : Option Table :=
  s.entries.lookup (Text.lower name)

/-- The catalog with a table under its name. -/
def put (s : Store) (t : Table) : Store where
  entries := putEntry (Text.lower t.name) t s.entries
  key_eq := by
    intro e he
    rcases mem_putEntry he with rfl | he
    · rfl
    · exact s.key_eq e he
  ascending := s.ascending.putEntry _ t

/-- The names of the tables, in the order of their keys. -/
def names (s : Store) : List String :=
  s.entries.map fun e => e.2.name

/-- The best index of each column of a table. -/
def hints? (s : Store) (name : String) : Option (List Hint) :=
  (s.table? name).map Table.hints

def register (s : Store) (t : Table) : Except Fault Store :=
  match s.table? t.name with
  | some _ => .error (.tableExists t.name)
  | none => .ok (s.put t)

end Store

end SqlPipeline.Catalog
