/-
**Printed columns of records read what is stored.**

Without groups, each output column of a query is printed from the stored record: it points to a
column of that, or computes a formula from one.  The type that it is printed as was found earlier,
from the expression of the query, and the place that it points to is looked up in the layout of the
table.  The record store knows neither: it is told the sizes of the columns in one line of the
generated program, and puts them one after the other.  Here the sizes are read off that line, and it
is shown that types and places agree with it.

Main definitions:

* `Query.Projection.Asks` — what an output column computes, where an alias computes what its target
  does;
* `Listing.announcedSizes?` — the sizes of columns that the lines of a step tell the record store;
* `Plan.Program.PrintsRecords` — the printed columns read what is stored.

Main results:

* `Plan.scanColumn_gathers` — all that printing one output column can do;
* `Layout.type?_of_asks` — the type of an output column comes from what it computes;
* `Plan.scan_layout` — **printed columns of records read what is stored**.
-/

import SqlPipeline.Proofs.Formulas
import SqlPipeline.Proofs.GroupLayout

set_option autoImplicit false

namespace SqlPipeline

open Journal Layout Query Outcome

/-! ### What an output column computes -/

/-- What an output column computes: its own kind or, for an alias, that of its target, which is no
alias. -/
def Query.Projection.Asks (ps : List Projection) (x : Projection) (kind : Kind) : Prop :=
  kind.isAlias = false ∧ (x.kind = kind ∨
    ∃ target y, x.kind = .aliasOf target ∧ ps[target]? = some y ∧ y.kind = kind)

theorem Query.Projection.Asks.unique {ps : List Projection} {x : Projection} {kind kind' : Kind}
    (h : x.Asks ps kind) (h' : x.Asks ps kind') : kind = kind' := by
  obtain ⟨hnot, rfl | ⟨target, y, hkind, hy, rfl⟩⟩ := h
  · obtain ⟨-, rfl | ⟨target, y, hkind, -, -⟩⟩ := h'
    · rfl
    · rw [hkind] at hnot
      cases hnot
  · obtain ⟨hnot', rfl | ⟨target', y', hkind', hy', rfl⟩⟩ := h'
    · rw [hkind] at hnot'
      cases hnot'
    · rw [hkind, Kind.aliasOf.injEq] at hkind'
      rw [hkind', hy', Option.some.injEq] at hy
      rw [hy]

/-! ### Layouts -/

namespace Layout

/-- The columns of a table have integer types. -/
theorem isFloat_ofTable {t : Catalog.Table} {stored : Schema} (h : ofTable t = .ok stored) :
    ∀ c ∈ stored.columns, c.type.isFloat = false := by
  refine foldlM_induct (I := fun _ s => ∀ c ∈ s.columns, c.type.isFloat = false) h nofun ?_
  intro done c rest s s' _ hint hc
  unfold addColumn at hc
  split at hc
  · next type htype =>
      cases hc
      refine List.forall_mem_append.2 ⟨hint, List.forall_mem_singleton.2 ?_⟩
      have hfloat : type.isFloat = false := by
        unfold storage? Storage.integer? at htype
        split at htype
        · split at htype <;> cases htype <;> rfl
        · split at htype <;> cases htype <;> rfl
        · cases htype
      exact hfloat
  · cases hc

theorem type?_push_of_lt {s : Schema} {i : Nat} (h : i < s.length) (name : String)
    (type : Storage) : (s.push name type).type? i = s.type? i := by
  rw [Schema.type?, Schema.type?, Schema.column?_push_of_lt h]

/-- The type of an output column does not change when columns are put after it. -/
theorem kindType_push {stored output : Schema} {i : Nat} (h : i ≤ output.length) (name : String)
    (type : Storage) (kind : Kind) :
    kindType stored (output.push name type) i kind = kindType stored output i kind := by
  cases kind with
  | aliasOf target =>
      rw [kindType, kindType]
      split
      · next hlt => rw [type?_push_of_lt (by omega)]
      · rfl
  | _ => rfl

theorem kindType_of_not_alias {kind : Kind} (h : kind.isAlias = false) (stored o o' : Schema)
    (i j : Nat) : kindType stored o i kind = kindType stored o' j kind := by
  cases kind with
  | aliasOf target => cases h
  | _ => rfl

/-- Each output column has the type of its kind. -/
theorem type?_ofProjections {stored output : Schema} {ps : List Projection}
    (h : ofProjections stored ps = .ok output) {i : Nat} {x : Projection}
    (hx : ps[i]? = some x) :
    ∃ type, output.type? i = some type ∧ kindType stored output i x.kind = .ok type := by
  have hall := foldlM_induct (I := fun done s => s.length = done.length ∧
    ∀ (i : Nat) y, done[i]? = some y →
      ∃ type, s.type? i = some type ∧ kindType stored s i y.1.kind = .ok type) h ⟨rfl, by simp⟩ ?_
  · exact hall.2 i (x, i) (by rw [List.getElem?_zipIdx, hx, Nat.zero_add]; rfl)
  · rintro done y rest s s' hsplit ⟨hlength, htypes⟩ hadd
    obtain ⟨hindex, -⟩ := zipIdx_eq_append hsplit
    simp only [addProjection, bind_eq_ok, pure_eq_ok] at hadd
    obtain ⟨type, htype, rfl⟩ := hadd
    refine ⟨by simp [hlength], fun i z hz => ?_⟩
    rcases Plan.getElem?_concat_cases hz with hz | ⟨rfl, rfl⟩
    · -- an earlier column keeps its type
      have hlt := (List.getElem?_eq_some_iff.1 hz).1
      obtain ⟨type', hsome, hkind⟩ := htypes i z hz
      rw [type?_push_of_lt (by omega), kindType_push (by omega)]
      exact ⟨type', hsome, hkind⟩
    · refine ⟨type, ?_, ?_⟩
      · rw [← hlength, Schema.type?, Schema.column?_push_length]
        rfl
      · rw [kindType_push (by omega), ← hindex]
        exact htype

/-- An alias has an earlier target. -/
theorem alias_lt {stored output : Schema} {ps : List Projection}
    (h : ofProjections stored ps = .ok output) {i target : Nat} {x : Projection}
    (hx : ps[i]? = some x) (hkind : x.kind = .aliasOf target) : target < i := by
  obtain ⟨type, -, htype⟩ := type?_ofProjections h hx
  rw [hkind, kindType] at htype
  split at htype
  · assumption
  · cases htype

/-- The type of an output column comes from what it computes. -/
theorem type?_of_asks {stored output : Schema} {ps : List Projection}
    (h : ofProjections stored ps = .ok output) {i : Nat} {x : Projection} {kind : Kind}
    (hx : ps[i]? = some x) (hasks : x.Asks ps kind) :
    ∃ type, output.type? i = some type ∧ kindType stored output 0 kind = .ok type := by
  obtain ⟨type, hsome, htype⟩ := type?_ofProjections h hx
  refine ⟨type, hsome, ?_⟩
  obtain ⟨hnot, hkind | ⟨target, y, hkind, hy, rfl⟩⟩ := hasks
  · rw [← htype, hkind]
    exact kindType_of_not_alias hnot _ _ _ _ _
  · -- an alias takes the type of its target
    obtain ⟨type', hsome', htype'⟩ := type?_ofProjections h hy
    rw [hkind, kindType, if_pos (alias_lt h hx hkind), hsome'] at htype
    obtain rfl : type' = type := Except.ok.inj htype
    rw [← htype']
    exact kindType_of_not_alias hnot _ _ _ _ _

/-- An expression has a fraction or the type of its first column.  The columns of a table are
integers, so the type tells which. -/
theorem scalarType_eq_ok {stored : Schema} {e : Scalar} {type : Storage}
    (h : scalarType stored e = .ok type) (hint : ∀ c ∈ stored.columns, c.type.isFloat = false) :
    (type = .double ↔ e.isFloat = true) ∧
      (e.isFloat = false → type = (e.columns.head?.bind stored.type?).getD .int32) := by
  unfold scalarType at h
  split at h
  · next hfloat =>
      cases h
      simp [hfloat]
  · next hfloat =>
      split at h
      · next n hn =>
          rw [Plan.typeAt_eq_ok] at h
          obtain ⟨c, hc, rfl⟩ := Option.map_eq_some_iff.1 h
          have hc' := hint c (List.mem_of_getElem? hc)
          refine ⟨⟨fun hdouble => ?_, fun hf => absurd hf hfloat⟩, fun _ => ?_⟩
          · rw [hdouble] at hc'
            cases hc'
          · rw [hn, Option.bind_some, h]
            rfl
      · next hn =>
          cases h
          simp [hn, hfloat]

end Layout

/-! ### Sizes in the generated program -/

namespace Listing

open Plan

/-- The numbers in a text. -/
def numbersIn (cs : List Char) : List Nat :=
  (cs.splitOnP fun c => !c.isDigit).filterMap fun word => (String.ofList word).toNat?

/-- The sizes in a line that declares sizes: the numbers from the brace on. -/
def declaredSizes? : Line → Option (List Nat)
  | .blank => none
  | .code _ t =>
    if "int8_t colSizes[] = ".toList.isPrefixOf t.toList then
      some (numbersIn (t.toList.dropWhile (· != '\x7b')))
    else none

/-- The sizes of columns that the lines of a step tell the record store. -/
def announcedSizes? (st : Step) : Option (List Nat) :=
  match stepLines [] st with
  | .ok ls => ls.findSome? declaredSizes?
  | .error _ => none

theorem toNat?_nil : (String.ofList []).toNat? = none := by cbv

theorem numbersIn_nil : numbersIn [] = [] := by
  simp only [numbersIn, List.splitOnP_nil, List.filterMap_cons, toNat?_nil, List.filterMap_nil]

theorem numbersIn_cons {c : Char} (hc : c.isDigit = false) (cs : List Char) :
    numbersIn (c :: cs) = numbersIn cs := by
  rw [numbersIn, List.splitOnP_cons_eq_if_modifyHead, if_pos (by simp [hc]), List.filterMap_cons,
    toNat?_nil]
  rfl

theorem numbersIn_nat (n : Nat) {c : Char} (hc : c.isDigit = false) (cs : List Char) :
    numbersIn ((toString n).toList ++ c :: cs) = n :: numbersIn cs := by
  rw [numbersIn, List.splitOnP_append_cons_of_forall_mem _ c (by simp [hc]), List.filterMap_cons,
    String.ofList_toList, Nat.toString_eq_repr, Nat.toNat?_repr]
  · rfl
  · intro d hd
    rw [isDigit_of_mem_toString hd]
    rfl

/-- Numbers with commas between them are read back. -/
theorem numbersIn_commaJoined (ns : List Nat) {c : Char} (hc : c.isDigit = false)
    (cs : List Char) :
    numbersIn ((commaJoined (ns.map toString)).toList ++ c :: cs) = ns ++ numbersIn cs := by
  induction ns with
  | nil => simpa [commaJoined] using numbersIn_cons hc cs
  | cons n ns ih =>
      cases ns with
      | nil => simpa [commaJoined] using numbersIn_nat n hc cs
      | cons m ns =>
          have hjoin : (commaJoined ((n :: m :: ns).map toString)).toList
              = (toString n).toList ++
                ',' :: ' ' :: (commaJoined ((m :: ns).map toString)).toList := by
            simp [commaJoined, String.intercalate_cons_cons]
          rw [hjoin, List.append_assoc, List.cons_append, List.cons_append,
            numbersIn_nat n (by decide), numbersIn_cons (by decide), ih]
          rfl

/-- The lines of a scan tell the record store the sizes of all columns. -/
theorem announcedSizes?_scan (s : Schema) (name : String) :
    announcedSizes? (.scan s name) = some (s.columns.map Column.size) := by
  have hfirst :
      declaredSizes? (line ("uint8_t numCols = " ++ toString s.length ++ ";")) = none := by
    rw [line, declaredSizes?, if_neg (by simp [List.isPrefixOf])]
  have hsizes : declaredSizes? (line ("int8_t colSizes[] = \x7b"
      ++ commaJoined (s.columns.map fun c => toString c.size) ++ "\x7d;"))
      = some (s.columns.map Column.size) := by
    have htext : ("int8_t colSizes[] = \x7b" ++ commaJoined (s.columns.map fun c => toString c.size)
        ++ "\x7d;").toList = "int8_t colSizes[] = ".toList ++ '\x7b' ::
          ((commaJoined ((s.columns.map Column.size).map toString)).toList ++ '\x7d' :: [';']) := by
      simp
      rfl
    rw [line, declaredSizes?, htext,
      if_pos (List.isPrefixOf_iff_prefix.2 (List.prefix_append _ _)),
      List.dropWhile_append_of_pos (by simp), List.dropWhile_cons_of_neg (by simp),
      numbersIn_cons (by decide), numbersIn_commaJoined _ (by decide), numbersIn_cons (by decide),
      numbersIn_nil, List.append_nil]
  rw [announcedSizes?, stepLines, schemaLines]
  show List.findSome? declaredSizes? (_ :: _ :: _) = _
  rw [List.findSome?_cons, hfirst, List.findSome?_cons, hsizes]

end Listing

/-! ### Printed columns -/

namespace Plan

section

variable {ps : List Projection} {stored output : Schema} {x : Projection × Nat} {c : OutputColumn}
  {s s' : Routines}

theorem targetKind_eq_ok {kind kind' : Kind} (h : targetKind ps kind = .ok kind') :
    (kind = kind' ∧ kind.isAlias = false) ∨
      ∃ target y, kind = .aliasOf target ∧ ps[target]? = some y ∧ y.kind = kind' := by
  unfold targetKind at h
  split at h
  · next target =>
      split at h
      · next y hy => exact .inr ⟨target, y, rfl, hy, Except.ok.inj h⟩
      · cases h
  · next hnot =>
      refine .inl ⟨Except.ok.inj h, ?_⟩
      cases kind with
      | aliasOf target => exact absurd rfl (hnot target)
      | _ => rfl

/-- All that printing one output column can do: it points to a stored column, or computes a formula
from at most one. -/
theorem scanColumn_gathers (h : Gathers (scanColumn ps stored output x) s c s') :
    ∃ type, output.type? x.2 = some type ∧
      ((∃ n source, x.1.Asks ps (.column n) ∧ stored.column? n = some source ∧ s' = s ∧
        c = { name := x.1.name, pointer := some (source.type, source.offset), type }) ∨
      (∃ e f source, x.1.Asks ps (.arithmetic e) ∧ Gathers (formulaOf e) s f s' ∧
        f.column?.mapM stored.columnAt = .ok source ∧
        c = { name := x.1.name, pointer := source.map fun c => (c.type, c.offset), type,
              formula := some f })) := by
  unfold scanColumn at h
  split at h
  · exact absurd h not_gathers_throw
  · next type htype =>
      refine ⟨type, htype, ?_⟩
      simp only [gathers_bind, gathers_lift] at h
      obtain ⟨kind, _, ⟨hkind, rfl⟩, h⟩ := h
      -- what the column computes, whether or not it is an alias
      have hasks : kind.isAlias = false → x.1.Asks ps kind := by
        intro hnot
        rcases targetKind_eq_ok hkind with ⟨heq, -⟩ | htarget
        · exact ⟨hnot, .inl heq⟩
        · exact ⟨hnot, .inr htarget⟩
      split at h
      · next n =>
          simp only [gathers_bind, gathers_lift, gathers_pure] at h
          obtain ⟨source, _, ⟨hsource, rfl⟩, rfl, rfl⟩ := h
          exact .inl ⟨n, source, hasks rfl, columnAt_eq_ok.1 hsource, rfl, rfl⟩
      · next e =>
          unfold formulaOutput at h
          simp only [gathers_bind, gathers_lift, gathers_pure] at h
          obtain ⟨f, _, hf, source, _, ⟨hsource, rfl⟩, rfl, rfl⟩ := h
          exact .inr ⟨e, f, source, hasks rfl, hf, hsource, rfl⟩
      · exact absurd h not_gathers_throw

end

/-- The source of a formula is its only column, if it has one. -/
theorem source_cases {f : Formula} {stored : Schema} {source : Option Column}
    (h : f.column?.mapM stored.columnAt = .ok source) (hlength : f.columns.length ≤ 1) :
    (f.columns = [] ∧ source = none) ∨
      ∃ n c, f.columns = [n] ∧ stored.column? n = some c ∧ source = some c := by
  unfold Formula.column? at h
  match hcolumns : f.columns with
  | [] =>
      rw [hcolumns] at h
      cases h
      exact .inl ⟨rfl, rfl⟩
  | [n] =>
      rw [hcolumns, List.head?_cons, Option.mapM_some, map_eq_ok] at h
      obtain ⟨c, hc, rfl⟩ := h
      exact .inr ⟨n, c, rfl, columnAt_eq_ok.1 hc, rfl⟩
  | n :: m :: ns =>
      rw [hcolumns, List.length_cons, List.length_cons] at hlength
      omega

/-- The printed columns of a program without groups read what is stored, where the record store has
been told the given sizes of columns. -/
structure Program.PrintsRecords (q : Resolved) (stored : Schema) (sizes : List Nat) (p : Program) :
    Prop where
  /-- There is one printed column for each output column, in order, with its name. -/
  names : p.output.map OutputColumn.name = q.projections.map Projection.name
  /-- Each output column computes a column or an expression. -/
  asks : ∀ x ∈ q.projections,
    (∃ n, x.Asks q.projections (.column n)) ∨ ∃ e, x.Asks q.projections (.arithmetic e)
  /-- A column is printed from its place, with its type. -/
  column : ∀ (i : Nat) x n, q.projections[i]? = some x → x.Asks q.projections (.column n) →
    ∃ c col, stored.column? n = some c ∧ p.output[i]? = some col ∧
      col.pointer = some (c.type, (sizes.take n).sum) ∧ col.type = c.type ∧ col.formula = none
  /-- An expression is computed from its only column, if it has one. -/
  formula : ∀ (i : Nat) x e, q.projections[i]? = some x → x.Asks q.projections (.arithmetic e) →
    ∃ f col, Translates e f ∧ p.output[i]? = some col ∧ col.formula = some f ∧
      ((e.columns = [] ∧ col.pointer = none) ∨
        ∃ n c, e.columns = [n] ∧ stored.column? n = some c ∧
          col.pointer = some (c.type, (sizes.take n).sum)) ∧
      (col.type = .double ↔ f.isFloat = true) ∧
      (f.isFloat = false → col.type = (f.column?.bind stored.type?).getD .int32)

section

variable {q : Resolved} {p : Program}

theorem forall₂_getElem? {α β : Type} {R : α → β → Prop} {xs : List α} {ys : List β}
    (h : List.Forall₂ R xs ys) {i : Nat} {x : α} (hx : xs[i]? = some x) :
    ∃ y, ys[i]? = some y ∧ R x y := by
  obtain ⟨hi, rfl⟩ := List.getElem?_eq_some_iff.1 hx
  have hi' : i < ys.length := h.length_eq ▸ hi
  exact ⟨ys[i], List.getElem?_eq_getElem hi', h.get hi hi'⟩

/-- Without groups, each output column is printed by itself. -/
theorem Stages.scanned (st : Stages q p) (hg : p.grouping = none) :
    List.Forall₂ (fun x c => ∃ t t',
      Gathers (scanColumn q.projections st.stored st.output x) t c t')
      q.projections.zipIdx p.output :=
  gathers_mapM (st.scanOutput_gathers hg).2

theorem Stages.scanned_at (st : Stages q p) (hg : p.grouping = none) {i : Nat} {x : Projection}
    (hx : q.projections[i]? = some x) :
    ∃ c t t', p.output[i]? = some c ∧
      Gathers (scanColumn q.projections st.stored st.output (x, i)) t c t' := by
  have hzip : q.projections.zipIdx[i]? = some (x, i) := by
    rw [List.getElem?_zipIdx, hx, Nat.zero_add]
    rfl
  obtain ⟨c, hc, t, t', hgather⟩ := forall₂_getElem? (st.scanned hg) hzip
  exact ⟨c, t, t', hc, hgather⟩

theorem Stages.scan_mem (st : Stages q p) : .scan st.stored "scanOp" ∈ p.steps := by
  rw [st.steps_eq]
  refine operators_keep (I := fun b => .scan st.stored "scanOp" ∈ b.steps) st.operators_eq
    (fun b hb => ?_) (fun b b' f _ hf hb => ?_) (fun b g _ hb => ?_) (fun b hf _ hb => ?_)
  · obtain ⟨keyType, dataType, -, -, -, -, rfl⟩ := Assembly.scan_eq_ok hb
    simp
  · obtain ⟨c, -, rfl⟩ := Assembly.selection_eq_ok hf
    exact List.mem_append_left _ hb
  · exact List.mem_append_left _ hb
  · exact List.mem_append_left _ (List.mem_append_left _ hb)

theorem Stages.names_eq (st : Stages q p) (hg : p.grouping = none) :
    p.output.map OutputColumn.name = q.projections.map Projection.name := by
  have hnames : List.Forall₂ (fun x c => x.1.name = c.name) q.projections.zipIdx p.output := by
    refine (st.scanned hg).imp fun x c hc => ?_
    obtain ⟨t, t', hc⟩ := hc
    obtain ⟨type, -, ⟨n, source, -, -, -, rfl⟩ | ⟨e, f, source, -, -, -, rfl⟩⟩ :=
      scanColumn_gathers hc <;> rfl
  rw [← map_zipIdx Projection.name, eq_comm, ← List.forall₂_eq_eq_eq, List.forall₂_map_left_iff,
    List.forall₂_map_right_iff]
  exact hnames

/-- A printed column has the type of what it computes. -/
theorem Stages.scanColumn_of_asks (st : Stages q p) (hg : p.grouping = none) {i : Nat}
    {x : Projection} {kind : Kind} (hx : q.projections[i]? = some x)
    (hasks : x.Asks q.projections kind) :
    ∃ c t t', p.output[i]? = some c ∧ kindType st.stored st.output 0 kind = .ok c.type ∧
      Gathers (scanColumn q.projections st.stored st.output (x, i)) t c t' := by
  obtain ⟨c, t, t', hc, hgather⟩ := st.scanned_at hg hx
  refine ⟨c, t, t', hc, ?_, hgather⟩
  obtain ⟨type, htype, hkind⟩ := type?_of_asks st.output_eq hx hasks
  obtain ⟨type', htype', hcase⟩ := scanColumn_gathers hgather
  obtain rfl : type = type' := Option.some.inj (htype.symm.trans htype')
  rcases hcase with ⟨n, source, -, -, -, rfl⟩ | ⟨e, f, source, -, -, -, rfl⟩
  · exact hkind
  · exact hkind

/-- The place of a stored column is after all that the record store puts before it. -/
theorem Stages.offset_eq_sum (st : Stages q p) {n : Nat} {c : Column}
    (hc : st.stored.column? n = some c) :
    c.offset = ((st.stored.columns.map Column.size).take n).sum := by
  rw [Schema.offset_eq_sum hc, List.map_take]

theorem Stages.printsRecords (st : Stages q p) (hg : p.grouping = none) :
    p.PrintsRecords q st.stored (st.stored.columns.map Column.size) := by
  refine ⟨st.names_eq hg, fun x hx => ?_, fun i x n hx hasks => ?_, fun i x e hx hasks => ?_⟩
  · obtain ⟨i, hi⟩ := List.mem_iff_getElem?.1 hx
    obtain ⟨c, t, t', -, hgather⟩ := st.scanned_at hg hi
    obtain ⟨type, -, ⟨n, source, hasks, -⟩ | ⟨e, f, source, hasks, -⟩⟩ :=
      scanColumn_gathers hgather
    · exact .inl ⟨n, hasks⟩
    · exact .inr ⟨e, hasks⟩
  · obtain ⟨c, t, t', hc, hkind, hgather⟩ := st.scanColumn_of_asks hg hx hasks
    obtain ⟨type, -, ⟨m, source, hasks', hsource, -, rfl⟩ | ⟨e, f, source, hasks', -⟩⟩ :=
      scanColumn_gathers hgather
    · cases hasks.unique hasks'
      have htype : st.stored.type? n = some type := typeAt_eq_ok.1 hkind
      rw [Schema.type?, hsource, Option.map_some, Option.some.injEq] at htype
      refine ⟨source, _, hsource, hc, ?_, htype.symm, rfl⟩
      rw [← st.offset_eq_sum hsource]
    · cases hasks.unique hasks'
  · obtain ⟨c, t, t', hc, hkind, hgather⟩ := st.scanColumn_of_asks hg hx hasks
    obtain ⟨type, -, ⟨n, source, hasks', -⟩ | ⟨e', f, source, hasks', hf, hsource, rfl⟩⟩ :=
      scanColumn_gathers hgather
    · cases hasks.unique hasks'
    · cases hasks.unique hasks'
      obtain ⟨-, hcolumns, -, hfloat, hlength⟩ := formulaOf_registers hf
      obtain ⟨hdouble, htype⟩ := scalarType_eq_ok hkind (isFloat_ofTable st.stored_eq)
      refine ⟨f, _, (formulaOf_gathers hf).1, hc, rfl, ?_, ?_, ?_⟩
      · rw [← hcolumns]
        rcases source_cases hsource hlength with ⟨hnil, rfl⟩ | ⟨n, c, hone, hcol, rfl⟩
        · exact .inl ⟨hnil, rfl⟩
        · exact .inr ⟨n, c, hone, hcol, by rw [← st.offset_eq_sum hcol]; rfl⟩
      · rw [hfloat]
        exact hdouble
      · rw [hfloat, Formula.column?, hcolumns]
        exact htype

/-- What is printed of trips: columns in another order, an alias of one, formulas with and without
a fraction, and one without a column. -/
def tripFares : Resolved :=
  { Resolved.ofTable trips with
    projections := [
      { name := "fare", kind := .column 2 },
      { name := "tens", kind :=
          .arithmetic (.apply "floor" (.binary .div (.column 1) (.literal (.integer 10)))) },
      { name := "again", kind := .aliasOf 0 },
      { name := "half", kind :=
          .arithmetic (.binary .mul (.column 2) (.literal (.decimal (.finite false 1 (-1))))) },
      { name := "seven", kind := .arithmetic (.literal (.integer 7)) },
      { name := "more", kind := .aliasOf 1 }] }

theorem access_tripFares : Access.ofQuery tripFares = Access.ofFilters tripFares.hints [] := rfl

/-- **Printed columns of records read what is stored.** -/
theorem scan_layout (hp : (ofQuery q).run.value = .ok p) (hq : q.isGrouped = false) :
    ∃ table stored sizes, q.tables = [table] ∧ ofTable table = .ok stored ∧
      .scan stored "scanOp" ∈ p.steps ∧
      Listing.announcedSizes? (.scan stored "scanOp") = some sizes ∧
      sizes.length = table.columns.length ∧ p.PrintsRecords q stored sizes := by
  obtain ⟨st⟩ := stages_of_ofQuery hp
  have hg : p.grouping = none := by
    rw [← st.isSome_grouping] at hq
    simpa using hq
  have hlength : (st.stored.columns.map Column.size).length = st.table.columns.length := by
    have hnames := congrArg List.length (map_name_ofTable st.stored_eq)
    rwa [List.length_map, List.length_map, ← List.length_map (f := Column.size)] at hnames
  exact ⟨st.table, st.stored, _, st.tables_eq, st.stored_eq, st.scan_mem,
    Listing.announcedSizes?_scan _ _, hlength, st.printsRecords hg⟩

theorem scan_layout_tripFares :
    ∃ p, (ofQuery tripFares).run.value = .ok p ∧ tripFares.isGrouped = false ∧
      p.output.map OutputColumn.type = [.int64, .int32, .int64, .double, .int32, .int32] ∧
      p.output.map OutputColumn.pointer = [some (.int64, 8), some (.int32, 4), some (.int64, 8),
        some (.int64, 8), none, some (.int32, 4)] ∧
      ∃ table stored sizes, tripFares.tables = [table] ∧ ofTable table = .ok stored ∧
        .scan stored "scanOp" ∈ p.steps ∧
        Listing.announcedSizes? (.scan stored "scanOp") = some sizes ∧
        sizes.length = table.columns.length ∧ p.PrintsRecords tripFares stored sizes := by
  obtain ⟨p, hp, htypes, hpointers⟩ : ∃ p, (ofQuery tripFares).run.value = .ok p ∧
      p.output.map OutputColumn.type = [.int64, .int32, .int64, .double, .int32, .int32] ∧
      p.output.map OutputColumn.pointer = [some (.int64, 8), some (.int32, 4), some (.int64, 8),
        some (.int64, 8), none, some (.int32, 4)] := by
    rw [ofQuery, build, access_tripFares, Access.ofFilters,
      Access.candidates_of_pairwise (by decide)]
    exact ⟨_, rfl, rfl, rfl⟩
  exact ⟨p, hp, rfl, htypes, hpointers, scan_layout hp rfl⟩

end

end Plan

end SqlPipeline
