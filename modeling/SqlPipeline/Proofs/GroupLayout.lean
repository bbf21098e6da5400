/-
**The records of groups are laid out as they are filled.**

The place of each value of a group is fixed when the groups are planned.  The record store that
fills the record never sees these places: it is told a size for each value, by a call or by an
assignment in the generated program, and puts the values one after the other.  The printed columns,
in turn, read from places that are looked up in a third list.  Here the sizes are read off the
generated lines, and it is shown that all three agree.

Main definitions:

* `Listing.announcedSize?` — the size that the generated lines tell the record store;
* `Listing.emittedWidth?` — the number of bytes that the record store gives to a value;
* `Plan.Program.GroupsAgree` — the places of the values, the sizes and the printed columns agree.

Main results:

* `Layout.Schema.offset_eq_sum` — a column stands after the sizes before it;
* `Plan.Describes.emittedWidth?` — the record store gives a value as many bytes as its type has;
* `Plan.type?_retyped` — an output column has the type of the value that it reads;
* `Plan.grouped_layout` — **the records of groups are laid out as they are filled and read**.
-/

import SqlPipeline.Listing.Construction
import SqlPipeline.Proofs.Planning
import SqlPipeline.Proofs.Statements

set_option autoImplicit false

namespace SqlPipeline

open Journal Layout Query Outcome

/-! ### Places in a record -/

namespace Layout

theorem Storage.width_pos (t : Storage) : 0 < t.width := by
  cases t <;> decide

/-- The place of a column that is placed anew is the start, and the sizes before it. -/
theorem getElem?_placedFrom (offset : Nat) (cs : List Column) (i : Nat) :
    (placedFrom offset cs)[i]?
      = cs[i]?.map fun c => { c with offset := offset + ((cs.take i).map Column.size).sum } := by
  induction cs generalizing offset i with
  | nil => rfl
  | cons c cs ih =>
      cases i with
      | zero => simp [placedFrom]
      | succ i =>
          rw [placedFrom, List.getElem?_cons_succ, List.getElem?_cons_succ, ih, List.take_succ_cons,
            List.map_cons, List.sum_cons, Nat.add_assoc]

namespace Schema

theorem size_eq_width {s : Schema} {i : Nat} {c : Column} (h : s.column? i = some c) :
    c.size = c.type.width :=
  s.sized c (List.mem_of_getElem? h)

/-- A column stands after all columns before it, without gaps. -/
theorem offset_eq_sum {s : Schema} {i : Nat} {c : Column} (h : s.column? i = some c) :
    c.offset = ((s.columns.take i).map Column.size).sum := by
  have hplaced : (placedFrom 0 s.columns)[i]? = some c := by rw [s.placed]; exact h
  rw [getElem?_placedFrom, Nat.zero_add] at hplaced
  obtain ⟨c', -, rfl⟩ := Option.map_eq_some_iff.1 hplaced
  rfl

theorem type?_eq (s : Schema) (i : Nat) : s.type? i = (s.columns.map Column.type)[i]? := by
  rw [List.getElem?_map]
  rfl

theorem type?_retype (s : Schema) (i j : Nat) (type : Storage) :
    (s.retype i type).type? j = if i = j then (s.type? j).map fun _ => type else s.type? j := by
  rw [type?_eq, columns_retype, map_placedFrom fun _ _ => rfl, List.getElem?_map,
    List.getElem?_modify, type?, column?]
  split <;> cases s.columns[j]? <;> rfl

theorem map_name_retype (s : Schema) (i : Nat) (type : Storage) :
    (s.retype i type).columns.map Column.name = s.columns.map Column.name := by
  rw [columns_retype, map_placedFrom fun _ _ => rfl]
  refine List.ext_getElem? fun j => ?_
  rw [List.getElem?_map, List.getElem?_map, List.getElem?_modify]
  split <;> cases s.columns[j]? <;> rfl

end Schema

theorem map_zipIdx {α β : Type} (f : α → β) (xs : List α) :
    xs.zipIdx.map (fun x => f x.1) = xs.map f := by
  calc xs.zipIdx.map (fun x => f x.1) = (xs.zipIdx.map Prod.fst).map f := by
        rw [List.map_map]
        rfl
    _ = xs.map f := by rw [List.zipIdx_map_fst]

/-- A layout that is built column by column has the names of what its columns are made from. -/
theorem map_name_foldlM {α : Type} {f : Schema → α × Nat → Except Fault Schema} {name : α → String}
    (hf : ∀ s x s', f s x = .ok s' → ∃ type, s' = s.push (name x.1) type) {xs : List α}
    {s : Schema} (h : xs.zipIdx.foldlM f .empty = .ok s) :
    s.columns.map Column.name = xs.map name := by
  have hnames := foldlM_induct
    (I := fun done s => s.columns.map Column.name = done.map fun x => name x.1) h rfl ?_
  · rw [hnames, map_zipIdx]
  · intro done x rest s s' _ hs hx
    obtain ⟨type, rfl⟩ := hf s x s' hx
    simp [Schema.columns_push, Schema.next, hs]

theorem map_name_ofTable {t : Catalog.Table} {stored : Schema} (h : ofTable t = .ok stored) :
    stored.columns.map Column.name = t.columns.map Catalog.Column.name := by
  refine map_name_foldlM (fun s c s' hc => ?_) h
  unfold addColumn at hc
  split at hc
  · next type _ => exact ⟨type, (Except.ok.inj hc).symm⟩
  · cases hc

theorem map_name_ofProjections {stored output : Schema} {ps : List Projection}
    (h : ofProjections stored ps = .ok output) :
    output.columns.map Column.name = ps.map Projection.name := by
  refine map_name_foldlM (fun s p s' hp => ?_) h
  simp only [Layout.addProjection, bind_eq_ok, pure_eq_ok] at hp
  obtain ⟨type, -, rfl⟩ := hp
  exact ⟨type, rfl⟩

end Layout

/-! ### Sizes in the generated program -/

namespace Listing

open Plan

/-- The integer at the end of a line, after a blank and before brackets and a semicolon. -/
def closingInteger? : Line → Option Int
  | .blank => none
  | .code _ t =>
    let tail := t.toList.reverse.dropWhile fun c => c == ')' || c == ';'
    (String.ofList (tail.takeWhile fun c => c != ' ').reverse).toInt?

/-- The size that the generated lines tell the record store for a value of a group: the last
argument of a call, or what is assigned last. -/
def announcedSize? (x : Descriptor) : Option Int :=
  match descriptorLines x with
  | .ok ls => ls.getLast?.bind closingInteger?
  | .error _ => none

/-- The number of bytes that the record store gives to a value of a group.  A sign only tells how
values are compared.  For a count and for a sum it is told no size, and has its own. -/
def emittedWidth? (x : Descriptor) : Option Nat :=
  match x.kind with
  | .aggregate .count => some 4
  | .aggregate .sum => some 8
  | _ => (announcedSize? x).map Int.natAbs

/-- A word is read back from the end of a line. -/
theorem closingInteger?_line {before word close : String}
    (hbefore : before.toList.getLast? = some ' ')
    (hword : ∀ c ∈ word.toList, c ≠ ' ' ∧ c ≠ ')' ∧ c ≠ ';') (hne : word.toList ≠ [])
    (hclose : ∀ c ∈ close.toList, c = ')' ∨ c = ';') :
    closingInteger? (line (before ++ word ++ close)) = word.toInt? := by
  obtain ⟨b, hb⟩ := List.getLast?_eq_some_iff.1 hbefore
  have hdrop : ((before ++ word ++ close).toList.reverse.dropWhile
      fun c => c == ')' || c == ';') = word.toList.reverse ++ ' ' :: b.reverse := by
    simp only [String.toList_append, List.reverse_append, hb]
    rw [List.dropWhile_append_of_pos (by simpa using hclose)]
    obtain ⟨c, cs, hcs⟩ := List.exists_cons_of_ne_nil (List.reverse_ne_nil_iff.2 hne)
    have hc := hword c (List.mem_reverse.1 (hcs ▸ List.mem_cons_self))
    rw [hcs]
    simp [hc.2.1, hc.2.2]
  have htake : ((word.toList.reverse ++ ' ' :: b.reverse).takeWhile fun c => c != ' ')
      = word.toList.reverse := by
    rw [List.takeWhile_append_of_pos]
    · simp
    · intro c hc
      simpa using (hword c (List.mem_reverse.1 hc)).1
  simp only [closingInteger?, line, hdrop, htake, List.reverse_reverse, String.ofList_toList]

/-- No digit is a blank or closes anything. -/
theorem ne_closing_of_isDigit {c : Char} (h : c.isDigit = true) : c ≠ ' ' ∧ c ≠ ')' ∧ c ≠ ';' := by
  refine ⟨?_, ?_, ?_⟩ <;> rintro rfl <;> cases h

theorem closingInteger?_nat {before close : String} (n : Nat)
    (hbefore : before.toList.getLast? = some ' ')
    (hclose : ∀ c ∈ close.toList, c = ')' ∨ c = ';') :
    closingInteger? (line (before ++ toString n ++ close)) = some (n : Int) := by
  rw [closingInteger?_line hbefore (fun c hc => ne_closing_of_isDigit (isDigit_of_mem_toString hc))
    (toString_toList_ne_nil n) hclose]
  exact Nat.toInt?_repr n

theorem closingInteger?_neg {before close : String} (n : Nat)
    (hbefore : before.toList.getLast? = some ' ')
    (hclose : ∀ c ∈ close.toList, c = ')' ∨ c = ';') :
    closingInteger? (line (before ++ ("-" ++ toString n) ++ close)) = some (-(n : Int)) := by
  rw [closingInteger?_line hbefore ?_ (by simp) hclose]
  · rw [String.toInt?_minus_append, Nat.toString_eq_repr, Nat.toNat?_repr]
    rfl
  · intro c hc
    rw [String.toList_append, List.mem_append] at hc
    rcases hc with hc | hc
    · obtain rfl : c = '-' := by simpa using hc
      decide
    · exact ne_closing_of_isDigit (isDigit_of_mem_toString hc)

section

variable {x : Descriptor}

theorem getLast?_append_blank (a : String) {b : String} (hb : b.toList.getLast? = some ' ') :
    (a ++ b).toList.getLast? = some ' ' := by
  rw [String.toList_append, List.getLast?_append, hb, Option.some_or]

theorem announcedSize?_of_lines {ls : List Line} {l : Line}
    (h : descriptorLines x = .ok (ls ++ [l])) : announcedSize? x = closingInteger? l := by
  simp [announcedSize?, h]

/-- The size of the least or the greatest value has the sign that tells of negative values. -/
theorem announcedSize?_extreme (hkind : x.kind = .aggregate .min ∨ x.kind = .aggregate .max)
    {n : Nat} (hsource : x.sourceColumn = some n) {t : Storage} (htype : x.sourceType = some t) :
    announcedSize? x
      = some (if t.isSigned then -(x.output.size : Int) else (x.output.size : Int)) := by
  have hlines : ∃ before, before.toList.getLast? = some ' ' ∧
      descriptorLines x = .ok ([] ++ [line (before ++ signedSize x ++ ");")]) := by
    unfold descriptorLines sourceText
    rcases hkind with hkind | hkind <;>
    · rw [hkind, hsource]
      exact ⟨_, getLast?_append_blank _ (by simp), rfl⟩
  obtain ⟨before, hbefore, hlines⟩ := hlines
  rw [announcedSize?_of_lines hlines, signedSize, htype, Option.map_some, Option.getD_some]
  by_cases hsigned : t.isSigned = true
  · rw [if_pos hsigned, if_pos hsigned]
    exact closingInteger?_neg _ hbefore (by simp)
  · rw [if_neg hsigned, if_neg hsigned]
    exact closingInteger?_nat _ hbefore (by simp)

theorem emittedWidth?_extreme (hkind : x.kind = .aggregate .min ∨ x.kind = .aggregate .max)
    {n : Nat} (hsource : x.sourceColumn = some n) {t : Storage} (htype : x.sourceType = some t) :
    emittedWidth? x = some x.output.size := by
  have hwidth : emittedWidth? x = (announcedSize? x).map Int.natAbs := by
    rcases hkind with h | h <;> rw [emittedWidth?, h]
  rw [hwidth, announcedSize?_extreme hkind hsource htype, Option.map_some]
  split <;> simp

theorem announcedSize?_avg (hkind : x.kind = .aggregate .avg) {n : Nat}
    (hsource : x.sourceColumn = some n) : announcedSize? x = some (x.output.size : Int) := by
  have hlines : ∃ before, before.toList.getLast? = some ' ' ∧
      descriptorLines x = .ok ([] ++ [line (before ++ toString x.output.size ++ ");")]) := by
    unfold descriptorLines sourceText
    rw [hkind, hsource]
    exact ⟨_, getLast?_append_blank _ (by simp), rfl⟩
  obtain ⟨before, hbefore, hlines⟩ := hlines
  rw [announcedSize?_of_lines hlines]
  exact closingInteger?_nat _ hbefore (by simp)

theorem announcedSize?_groupValue (hkind : x.kind = .groupValue) {compute : String}
    (hcompute : x.compute = some compute) : announcedSize? x = some (x.output.size : Int) := by
  have hlines : ∃ ls, descriptorLines x
      = .ok (ls ++ [line (x.holder ++ "->colSize = " ++ toString x.output.size ++ ";")]) := by
    unfold descriptorLines
    rw [hkind, hcompute]
    exact ⟨[_, _], rfl⟩
  obtain ⟨ls, hlines⟩ := hlines
  rw [announcedSize?_of_lines hlines]
  exact closingInteger?_nat _ (getLast?_append_blank _ (by simp)) (by simp)

end

end Listing

/-! ### Values of a group -/

namespace Plan

section

variable {stored : Schema} {key : Option GroupKey} {index : Nat} {kind : Kind} {x : Descriptor}

/-- A value of a group is a function of the group, which has a source unless records are counted,
or the value of what records are grouped by, which has its routine. -/
theorem Describes.kind_cases (h : Describes stored key index kind x) :
    (∃ f, x.kind = .aggregate f ∧ outputType f x.sourceType = .ok x.output.type ∧
      (f ≠ .count → ∃ n t, x.sourceColumn = some n ∧ stored.type? n = some t ∧
        x.sourceType = some t)) ∨
    (x.kind = .groupValue ∧ x.compute = some (computeName index)) := by
  cases h with
  | @aggregate call sourceType output source type =>
      refine .inl ⟨call.function, rfl, type, fun hf => ?_⟩
      cases sourceType with
      | none =>
          cases hcall : call.function with
          | count => exact absurd hcall hf
          | _ =>
              rw [hcall] at type
              cases type
      | some t =>
          obtain ⟨n, hn, ht⟩ := Option.bind_eq_some_iff.1 (sourceType_eq source).symm
          exact ⟨n, t, hn, ht, rfl⟩
  | groupValue => exact .inr ⟨rfl, rfl⟩

/-- The record store gives a value of a group as many bytes as its type has. -/
theorem Describes.emittedWidth? (h : Describes stored key index kind x)
    (hsize : x.output.size = x.output.type.width) :
    Listing.emittedWidth? x = some x.output.size := by
  rcases h.kind_cases with ⟨f, hkind, htype, hsource⟩ | ⟨hkind, hcompute⟩
  · cases f with
    | count =>
        obtain htype : Storage.uint32 = x.output.type := Except.ok.inj htype
        rw [Listing.emittedWidth?, hkind, hsize, ← htype]
        rfl
    | sum =>
        obtain ⟨n, t, -, -, hst⟩ := hsource nofun
        rw [hst] at htype
        obtain htype : Storage.int64 = x.output.type := Except.ok.inj htype
        rw [Listing.emittedWidth?, hkind, hsize, ← htype]
        rfl
    | avg =>
        obtain ⟨n, t, hn, -, -⟩ := hsource nofun
        rw [Listing.emittedWidth?, hkind, Listing.announcedSize?_avg hkind hn]
        rfl
    | min =>
        obtain ⟨n, t, hn, -, ht⟩ := hsource nofun
        exact Listing.emittedWidth?_extreme (.inl hkind) hn ht
    | max =>
        obtain ⟨n, t, hn, -, ht⟩ := hsource nofun
        exact Listing.emittedWidth?_extreme (.inr hkind) hn ht
  · rw [Listing.emittedWidth?, hkind, Listing.announcedSize?_groupValue hkind hcompute]
    rfl

end

/-! ### The layout of the values -/

section

variable {q : Resolved} {stored output out : Schema} {g : Grouping} {s s' : Routines}

/-- The columns of the layout are the places of the values. -/
theorem GroupStages.column?_eq (st : GroupStages q stored output s g out s') (k : Nat) :
    g.schema.column? k = g.descriptors[k]?.map Descriptor.output := by
  obtain ⟨-, -, hin⟩ := st.inStep_final
  rw [st.schema_eq, Schema.column?, hin.schema_eq, st.descriptors_eq, List.getElem?_map]

/-- What a value of a group was made for. -/
theorem GroupStages.describes_descriptor (st : GroupStages q stored output s g out s') {k : Nat}
    {x : Descriptor} (hx : g.descriptors[k]? = some x) :
    ∃ kind, Describes stored st.key k kind x := by
  obtain ⟨-, -, hin⟩ := st.inStep_final
  rw [st.descriptors_eq] at hx
  have hlt : k < st.final.kinds.length := by
    rw [← hin.length_eq]
    exact (List.getElem?_eq_some_iff.1 hx).1
  exact ⟨_, hin.described k _ x (List.getElem?_eq_getElem hlt) hx⟩

/-! ### Output columns -/

/-- The output columns from the `start`-th on are given the types of the values that they read. -/
def retypedFrom (schema : Schema) (start : Nat) (columns : List Nat) (output : Schema) : Schema :=
  (columns.zipIdx start).foldl (fun out (index, i) =>
    match schema.type? index with
    | some type => out.retype i type
    | none => out) output

theorem retypedFrom_cons (schema output : Schema) (start index : Nat) (columns : List Nat) :
    retypedFrom schema start (index :: columns) output
      = retypedFrom schema (start + 1) columns (match schema.type? index with
        | some type => output.retype start type
        | none => output) := rfl

theorem type?_retypedFrom_of_lt (schema output : Schema) (columns : List Nat) {start i : Nat}
    (hi : i < start) : (retypedFrom schema start columns output).type? i = output.type? i := by
  induction columns generalizing start output with
  | nil => rfl
  | cons index columns ih =>
      rw [retypedFrom_cons, ih _ (by omega)]
      split
      · rw [Schema.type?_retype, if_neg (by omega)]
      · rfl

theorem type?_retypedFrom {schema output : Schema} {columns : List Nat} {start i j k : Nat}
    {type : Storage} (hk : columns[i]? = some k) (htype : schema.type? k = some type)
    (hj : j = start + i) (hsome : (output.type? j).isSome) :
    (retypedFrom schema start columns output).type? j = some type := by
  induction columns generalizing start i output with
  | nil => simp at hk
  | cons index columns ih =>
      rw [retypedFrom_cons]
      cases i with
      | zero =>
          -- the columns after it are given types of their own
          obtain rfl : index = k := by simpa using hk
          obtain rfl : j = start := hj
          obtain ⟨t, ht⟩ := Option.isSome_iff_exists.1 hsome
          rw [htype, type?_retypedFrom_of_lt _ _ _ (by omega), Schema.type?_retype, if_pos rfl, ht]
          rfl
      | succ i =>
          have hj' : j = start + 1 + i := by omega
          refine ih (by simpa using hk) hj' ?_
          split
          · rw [Schema.type?_retype, if_neg (by omega)]
            exact hsome
          · exact hsome

/-- An output column has the type of the value that it reads. -/
theorem type?_retyped {schema output : Schema} {columns : List Nat} {i k : Nat} {type : Storage}
    (hk : columns[i]? = some k) (htype : schema.type? k = some type) (hi : i < output.length) :
    (retyped schema output columns).type? i = some type := by
  obtain ⟨t, ht⟩ := Schema.type?_of_lt hi
  have hi' : i = 0 + i := by omega
  exact type?_retypedFrom hk htype hi' (by rw [ht]; rfl)

theorem map_name_retyped (schema output : Schema) (columns : List Nat) :
    (retyped schema output columns).columns.map Column.name = output.columns.map Column.name := by
  unfold retyped
  induction columns.zipIdx generalizing output with
  | nil => rfl
  | cons c cs ih =>
      rw [List.foldl_cons, ih]
      dsimp only
      split
      · exact Schema.map_name_retype _ _ _
      · rfl

theorem length_ofProjections {ps : List Projection} (h : ofProjections stored ps = .ok out) :
    out.length = ps.length := by
  have hnames := congrArg List.length (map_name_ofProjections h)
  rwa [List.length_map, List.length_map] at hnames

theorem groupedOutput_eq_ok {columns : List OutputColumn}
    (h : groupedOutput out g = .ok columns) (hlen : out.length = g.projectionColumns.length) :
    columns.length = g.projectionColumns.length ∧
      ∀ (i k : Nat), g.projectionColumns[i]? = some k → ∃ c col, g.schema.column? k = some c ∧
        columns[i]? = some col ∧ col.pointer = some (c.type, c.offset) ∧ col.type = c.type := by
  have hall := mapM_eq_ok.1 h
  have hlength := hall.length_eq
  rw [List.length_zip] at hlength
  have hlen' : out.columns.length = g.projectionColumns.length := hlen
  refine ⟨by omega, fun i k hk => ?_⟩
  obtain ⟨hi, hik⟩ := List.getElem?_eq_some_iff.1 hk
  have hcol := hall.get (i := i) (by rw [List.length_zip]; omega) (by omega)
  rw [List.get_eq_getElem, List.getElem_zip, hik] at hcol
  dsimp only at hcol
  split at hcol
  · next c hc =>
      refine ⟨c, _, hc, List.getElem?_eq_getElem (by omega), ?_⟩
      rw [List.get_eq_getElem] at hcol
      rw [← Except.ok.inj hcol]
      exact ⟨rfl, rfl⟩
  · cases hcol

end

/-! ### Agreement -/

/-- The places of the values of a group, the sizes that the record store is told, and the printed
columns agree.  `out` is the layout of the output columns, by the values that they read. -/
structure Program.GroupsAgree (q : Resolved) (stored out : Schema) (g : Grouping) (p : Program) :
    Prop where
  /-- A step computes the values, in order. -/
  step : ∃ input packed name, .aggregate input g.descriptors packed name ∈ p.steps
  column : ∀ k, g.schema.column? k = g.descriptors[k]?.map Descriptor.output
  /-- The record store gives each value the bytes that its place has. -/
  size : ∀ x ∈ g.descriptors, Listing.emittedWidth? x = some x.output.size
  offset : ∀ (k : Nat) x, g.descriptors[k]? = some x →
    ((g.descriptors.take k).mapM Listing.emittedWidth?).map List.sum = some x.output.offset
  /-- The sign of the size of an extreme value tells whether its column has negative values. -/
  sign : ∀ x ∈ g.descriptors, x.kind = .aggregate .min ∨ x.kind = .aggregate .max →
    ∃ t n, x.sourceType = some t ∧ x.sourceColumn.bind stored.type? = some t ∧
      Listing.announcedSize? x = some n ∧ (n < 0 ↔ t.isSigned = true)
  /-- The routine of a value that records are grouped by writes as many bytes. -/
  routine : ∀ x ∈ g.descriptors, x.kind = .groupValue → ∃ name f source offset type,
    x.compute = some name ∧
      p.routines.named? name = some (.groupValue name f source offset type) ∧
      Listing.emittedWidth? x = some type.width
  /-- Each output column is printed from a value. -/
  columns_length : g.projectionColumns.length = q.projections.length
  output_length : p.output.length = q.projections.length
  printed : ∀ (i k : Nat), g.projectionColumns[i]? = some k → ∃ c col,
    g.schema.column? k = some c ∧ p.output[i]? = some col ∧
      col.pointer = some (c.type, c.offset) ∧ col.type = c.type ∧ out.type? i = some c.type

section

variable {q : Resolved} {stored output out : Schema} {g : Grouping} {s s' : Routines} {p : Program}

theorem GroupStages.emittedWidth? (st : GroupStages q stored output s g out s') {x : Descriptor}
    (hx : x ∈ g.descriptors) : Listing.emittedWidth? x = some x.output.size := by
  obtain ⟨k, hk⟩ := List.mem_iff_getElem?.1 hx
  obtain ⟨kind, hdesc⟩ := st.describes_descriptor hk
  have hcol := st.column?_eq k
  rw [hk] at hcol
  exact hdesc.emittedWidth? (Schema.size_eq_width hcol)

theorem mapM_eq_some_map {α β : Type} {f : α → Option β} {w : α → β} {xs : List α}
    (h : ∀ x ∈ xs, f x = some (w x)) : xs.mapM f = some (xs.map w) := by
  induction xs with
  | nil => rfl
  | cons x xs ih =>
      obtain ⟨hx, hxs⟩ := List.forall_mem_cons.1 h
      rw [List.mapM_cons, hx, ih hxs]
      rfl

/-- A value stands after all that the record store puts before it. -/
theorem GroupStages.offset_eq (st : GroupStages q stored output s g out s') {k : Nat}
    {x : Descriptor} (hx : g.descriptors[k]? = some x) :
    ((g.descriptors.take k).mapM Listing.emittedWidth?).map List.sum = some x.output.offset := by
  have hcol := st.column?_eq k
  rw [hx] at hcol
  have hsizes : (g.schema.columns.take k).map Column.size
      = (g.descriptors.take k).map fun y => y.output.size := by
    obtain ⟨-, -, hin⟩ := st.inStep_final
    rw [st.schema_eq, hin.schema_eq, st.descriptors_eq, ← List.map_take, List.map_map]
    rfl
  rw [mapM_eq_some_map fun y hy => st.emittedWidth? (List.mem_of_mem_take hy), Option.map_some,
    Schema.offset_eq_sum hcol, hsizes]

theorem GroupStages.sign (st : GroupStages q stored output s g out s') {x : Descriptor}
    (hx : x ∈ g.descriptors) (hkind : x.kind = .aggregate .min ∨ x.kind = .aggregate .max) :
    ∃ t n, x.sourceType = some t ∧ x.sourceColumn.bind stored.type? = some t ∧
      Listing.announcedSize? x = some n ∧ (n < 0 ↔ t.isSigned = true) := by
  obtain ⟨k, hk⟩ := List.mem_iff_getElem?.1 hx
  obtain ⟨kind, hdesc⟩ := st.describes_descriptor hk
  have hsource : ∃ n t, x.sourceColumn = some n ∧ stored.type? n = some t ∧
      x.sourceType = some t := by
    rcases hdesc.kind_cases with ⟨f, hf, -, hsource⟩ | ⟨hgroup, -⟩
    · refine hsource fun hcount => ?_
      rw [hf, hcount] at hkind
      simp at hkind
    · rw [hgroup] at hkind
      simp at hkind
  obtain ⟨n, t, hn, ht, hst⟩ := hsource
  have hpos : 0 < x.output.size := by
    have hcol := st.column?_eq k
    rw [hk] at hcol
    rw [Schema.size_eq_width hcol]
    exact x.output.type.width_pos
  refine ⟨t, _, hst, by rw [hn, Option.bind_some, ht],
    Listing.announcedSize?_extreme hkind hn hst, ?_⟩
  split <;> simp_all

theorem GroupStages.routine (st : GroupStages q stored output .empty g out s') {x : Descriptor}
    (hx : x ∈ g.descriptors) (hkind : x.kind = .groupValue) : ∃ name f source offset type,
      x.compute = some name ∧ s'.named? name = some (.groupValue name f source offset type) ∧
        Listing.emittedWidth? x = some type.width := by
  obtain ⟨k, hk⟩ := List.mem_iff_getElem?.1 hx
  obtain ⟨kind, hdesc⟩ := st.describes_descriptor hk
  have hcompute : x.compute = some (computeName k) := by
    rcases hdesc.kind_cases with ⟨f, hf, -, -⟩ | ⟨-, hcompute⟩
    · rw [hkind] at hf
      cases hf
    · exact hcompute
  obtain ⟨hinst, -⟩ := st.installed nofun
  obtain ⟨key, source, -, -, hnamed⟩ := hinst.carries k x (by rw [← st.descriptors_eq, hk]) hkind
  refine ⟨_, _, _, _, _, hcompute, hnamed, ?_⟩
  have hcol := st.column?_eq k
  rw [hk] at hcol
  rw [st.emittedWidth? hx, Schema.size_eq_width hcol]

theorem grouping?_gathers {grouping : Option Grouping}
    (h : Gathers (grouping? q stored output) s (grouping, out) s') :
    (q.isGrouped = true ∧ ∃ g, grouping = some g ∧
      Gathers (Grouping.ofQuery q stored output) s (g, out) s') ∨
    (q.isGrouped = false ∧ grouping = none ∧ q.having = [] ∧ out = output ∧ s' = s) := by
  unfold grouping? at h
  split at h
  · next hgrouped =>
      simp only [gathers_bind, gathers_pure] at h
      obtain ⟨⟨g, out'⟩, _, hg, heq, rfl⟩ := h
      cases heq
      exact .inl ⟨hgrouped, g, rfl, hg⟩
  · next hgrouped =>
      dsimp only at h
      split at h
      · obtain ⟨_, _, hthrow, -⟩ := gathers_bind.1 h
        exact absurd hthrow not_gathers_throw
      · next hempty =>
          obtain ⟨heq, rfl⟩ := gathers_pure.1 h
          cases heq
          exact .inr ⟨by simpa using hgrouped, rfl, by simpa using hempty, rfl, rfl⟩

/-- The groups of a program, and the columns that are printed from them.  These need no more
routines. -/
theorem Stages.grouping_gathers_some (st : Stages q p) (hg : p.grouping = some g) :
    Gathers (Grouping.ofQuery q st.stored st.output) .empty (g, st.retyped) p.routines ∧
      groupedOutput st.retyped g = .ok p.output := by
  have hgather := st.grouping_gathers
  have houtput := st.output_gathers
  rw [hg] at hgather houtput
  obtain ⟨houtput, hroutines⟩ := gathers_lift.1 houtput
  rcases grouping?_gathers hgather with ⟨-, g', heq, hgather⟩ | ⟨-, hnone, -⟩
  · cases heq
    rw [← hroutines] at hgather
    exact ⟨hgather, houtput⟩
  · cases hnone

/-- Without groups the output columns keep their layout, and what is printed of records needs all
routines that there are. -/
theorem Stages.scanOutput_gathers (st : Stages q p) (hg : p.grouping = none) :
    q.isGrouped = false ∧
      Gathers (scanOutput q.projections st.stored st.output) .empty p.output p.routines := by
  have hgather := st.grouping_gathers
  have houtput := st.output_gathers
  rw [hg] at hgather houtput
  rcases grouping?_gathers hgather with ⟨-, g, heq, -⟩ | ⟨hgrouped, -, -, hout, hroutines⟩
  · cases heq
  · rw [hout, hroutines] at houtput
    exact ⟨hgrouped, houtput⟩

theorem Stages.isSome_grouping (st : Stages q p) : p.grouping.isSome = q.isGrouped := by
  rcases grouping?_gathers st.grouping_gathers with ⟨hgrouped, g, hg, -⟩ | ⟨hgrouped, hg, -⟩ <;>
    rw [hgrouped, hg] <;> rfl

theorem Stages.aggregate_mem (st : Stages q p) (hg : p.grouping = some g) :
    ∃ input, Step.aggregate input g.descriptors "aggFuncs" "aggOp" ∈ p.steps := by
  obtain ⟨a₁, a₂, -, -, ha⟩ := operators_eq_ok st.operators_eq
  rw [hg, Option.map_some, Option.getD_some] at ha
  refine ⟨a₂.top, ?_⟩
  rw [st.steps_eq, ha]
  cases p.having <;> simp [Assembly.aggregate, Assembly.having, Assembly.literal]

theorem access_tripsByDistance :
    Access.ofQuery tripsByDistance = Access.ofFilters tripsByDistance.hints [] := rfl

/-- **The records of groups are laid out as they are filled and read.** -/
theorem grouped_layout (hp : (ofQuery q).run.value = .ok p) (hg : p.grouping = some g) :
    ∃ table stored output out, q.tables = [table] ∧ ofTable table = .ok stored ∧
      ofProjections stored q.projections = .ok output ∧
      Gathers (Grouping.ofQuery q stored output) .empty (g, out) p.routines ∧
      p.GroupsAgree q stored out g := by
  obtain ⟨st⟩ := stages_of_ofQuery hp
  obtain ⟨hgather, houtput⟩ := st.grouping_gathers_some hg
  obtain ⟨gs⟩ := stages_of_grouping hgather
  have hcolumns := gs.sound.columns_length
  have hlen := length_ofProjections st.output_eq
  have hretyped : st.retyped.length = q.projections.length := by
    rw [gs.out_eq, length_retyped, hlen]
  obtain ⟨hprinted, hcol⟩ := groupedOutput_eq_ok houtput (hretyped.trans hcolumns.symm)
  refine ⟨st.table, st.stored, st.output, st.retyped, st.tables_eq, st.stored_eq, st.output_eq,
    hgather, ?_⟩
  refine {
    step := ?_
    column := gs.column?_eq
    size := fun x hx => gs.emittedWidth? hx
    offset := fun k x hx => gs.offset_eq hx
    sign := fun x hx hkind => gs.sign hx hkind
    routine := fun x hx hkind => gs.routine hx hkind
    columns_length := hcolumns
    output_length := hprinted.trans hcolumns
    printed := fun i k hk => ?_ }
  · obtain ⟨input, hmem⟩ := st.aggregate_mem hg
    exact ⟨input, _, _, hmem⟩
  · obtain ⟨c, col, hc, hcol, hpointer, htype⟩ := hcol i k hk
    refine ⟨c, col, hc, hcol, hpointer, htype, ?_⟩
    rw [gs.out_eq]
    refine type?_retyped (by rw [← gs.columns_eq, hk]) ?_ ?_
    · rw [← gs.schema_eq, Schema.type?, hc, Option.map_some]
    · have := (List.getElem?_eq_some_iff.1 hk).1
      omega

theorem grouped_layout_tripsByDistance :
    ∃ p g, (ofQuery tripsByDistance).run.value = .ok p ∧ p.grouping = some g ∧
      g.descriptors.map (fun x => x.output.offset) = [0, 4, 8, 16] ∧
      ∃ table stored output out, tripsByDistance.tables = [table] ∧ ofTable table = .ok stored ∧
        ofProjections stored tripsByDistance.projections = .ok output ∧
        Gathers (Grouping.ofQuery tripsByDistance stored output) .empty (g, out) p.routines ∧
        p.GroupsAgree tripsByDistance stored out g := by
  obtain ⟨p, g, hp, hg, hoffsets⟩ : ∃ p g, (ofQuery tripsByDistance).run.value = .ok p ∧
      p.grouping = some g ∧ g.descriptors.map (fun x => x.output.offset) = [0, 4, 8, 16] := by
    rw [ofQuery, build, access_tripsByDistance, Access.ofFilters,
      Access.candidates_of_pairwise (by decide)]
    exact ⟨_, _, rfl, rfl, rfl⟩
  exact ⟨p, g, hp, hg, hoffsets, grouped_layout hp hg⟩

end

end Plan

end SqlPipeline
