/-
**Which comparison of a query goes where.**

`Access` compares an access with its comparisons as tests on records, and `StoredValues` traces its
integers back to the query.  Neither tells which of several comparisons on a column is the one that
counts.  Here the access is given field by field: the comparisons on indexed columns are sorted by
column before they are worked off, each may write one side of a bound or both, and which column
bounds the data is only known once they are sorted; but on each side of each bound it is the last
comparison in the order of the query that counts.

Main definitions:

* `Plan.lastOf` — what the last of some comparisons gives on one side of a bound;
* `Plan.dataColumn?` — the column that bounds the data;
* `Plan.byColumn` — comparisons in the order of the columns, and of the query on each column;
* `Plan.Access.Exact` — the fields of an access, from the comparisons of a query;
* `Plan.Filter.Refused`, `Query.Resolved.Refused` — a comparison, and a query, that is refused.

Main results:

* `Plan.Access.Progress.add`, `Plan.Access.Progress.foldlM` — what one comparison on an indexed
  column does, and what all of them do in their order;
* `Plan.filter_candidates`, `Plan.candidates_eq_byColumn` — sorting keeps the order on each column;
* `Plan.Access.exists_ok_foldlM_iff` — comparisons are worked off unless one of them is refused;
* `Plan.classification` — **the access of a query, and when it has none**.
-/

import SqlPipeline.Proofs.Pipeline
import SqlPipeline.Proofs.StoredValues

set_option autoImplicit false

namespace SqlPipeline

open Journal Query Outcome

/-! ### Where comparisons go -/

namespace Plan

/-- The condition of a query that is a comparison with an integer. -/
def Filter.comparison (f : Filter) : Comparison :=
  ⟨f.column, f.op, .integer f.value⟩

/-- Whether a comparison is on the key. -/
def Filter.isKey (hints : List Catalog.Hint) (f : Filter) : Bool :=
  hintAt hints f.column = .primaryKey

/-- Whether a comparison is on the given column. -/
def Filter.isOn (column : Option Nat) (f : Filter) : Bool :=
  column = some f.column

/-- Whether a comparison on an indexed column bounds nothing, when `data` bounds the data: a `!=`,
or any comparison on a third column. -/
def Filter.isLeft (hints : List Catalog.Hint) (data : Option Nat) (f : Filter) : Bool :=
  (hintAt hints f.column).isIndexed && (f.op == .ne || !f.isKey hints && !f.isOn data)

/-- What the last of the comparisons that give anything on a side of a bound gives there. -/
def lastOf (side : Filter → Option Int) (fs : List Filter) : Option Int :=
  (fs.filterMap side).getLast?

/-- The bound that comparisons on one column come to: on each side, the last counts. -/
def lastBound (fs : List Filter) : Bound :=
  ⟨lastOf Filter.least? fs, lastOf Filter.greatest? fs⟩

/-- The bound on a key, which is never negative. -/
def Bound.raised (b : Bound) : Bound :=
  ⟨b.min.map (Max.max 0), b.max⟩

/-- The column that bounds the data: the lowest of those with an index, other than the key, that are
compared by anything but `!=`. -/
def dataColumn? (hints : List Catalog.Hint) (fs : List Filter) : Option Nat :=
  ((fs.filter (boundsData hints)).map Filter.column).min?

/-- Comparisons on the first `width` columns, in the order of the columns; those on one column keep
their order. -/
def byColumn (width : Nat) (fs : List Filter) : List Filter :=
  (List.range width).flatMap fun n => fs.filter fun f => f.column == n

/-- The fields of an access, from the comparisons of a query in their order. -/
structure Access.Exact (hints : List Catalog.Hint) (fs : List Filter) (a : Access) : Prop where
  keyColumn : ∀ n, a.keyColumn = some n ↔
    hintAt hints n = .primaryKey ∧ ∃ f ∈ fs, f.column = n ∧ f.op ≠ .ne
  key : a.key = (lastBound (fs.filter (Filter.isKey hints))).raised
  secondaryColumn : a.secondaryColumn = dataColumn? hints fs
  secondary : a.secondary = lastBound (fs.filter (Filter.isOn (dataColumn? hints fs)))
  filters : a.filters = ((fs.filter fun f => !(hintAt hints f.column).isIndexed)
    ++ byColumn hints.length (fs.filter (Filter.isLeft hints (dataColumn? hints fs)))).eraseDups

/-- A strict comparison whose inclusive bound does not have 64 bits. -/
def Filter.Overflows (f : Filter) : Prop :=
  f.op = .gt ∧ isWord (f.value + 1) = false ∨ f.op = .lt ∧ isWord (f.value - 1) = false

/-- A comparison is refused as a bound, when `data` bounds the data: it has no inclusive bound, or
it bounds the key from above by less than zero. -/
def Filter.Refused (hints : List Catalog.Hint) (data : Option Nat) (f : Filter) : Prop :=
  (hintAt hints f.column = .primaryKey ∨ data = some f.column) ∧ f.Overflows ∨
    hintAt hints f.column = .primaryKey ∧ ∃ v, f.greatest? = some v ∧ v < 0

end Plan

/-- The conditions of a query are refused: one compares with something that is no integer, or is
refused as a bound. -/
inductive Query.Resolved.Refused (q : Resolved) : Prop
  | literal {c : Comparison} : c ∈ q.predicates → c.literal.integer? = none → Refused q
  | overflow {f : Plan.Filter} : q.Asks f → f.Overflows →
      Plan.hintAt q.hints f.column = .primaryKey ∨ q.DataColumn f.column → Refused q
  | negative {f : Plan.Filter} {v : Int} : q.Asks f →
      Plan.hintAt q.hints f.column = .primaryKey → f.greatest? = some v → v < 0 → Refused q

namespace Plan

/-! ### The last comparison counts -/

@[simp] theorem Filter.isKey_eq_true {hints : List Catalog.Hint} {f : Filter} :
    f.isKey hints = true ↔ hintAt hints f.column = .primaryKey := by
  simp [isKey]

@[simp] theorem Filter.isOn_eq_true {column : Option Nat} {f : Filter} :
    f.isOn column = true ↔ column = some f.column := by
  simp [isOn]

theorem lastOf_concat (side : Filter → Option Int) (fs : List Filter) (f : Filter) :
    lastOf side (fs ++ [f]) = (side f).or (lastOf side fs) := by
  cases h : side f <;> simp [lastOf, h]

theorem lastBound_concat (fs : List Filter) (f : Filter) :
    lastBound (fs ++ [f]) = (lastBound fs).replace ⟨f.least?, f.greatest?⟩ := by
  simp [lastBound, Bound.replace, lastOf_concat]

theorem Bound.raised_replace (earlier later : Bound) :
    (earlier.replace later).raised = earlier.raised.replace later.raised := by
  simp only [Bound.raised, Bound.replace]
  cases later.min <;> simp

section

variable {p : Filter → Bool} {fs : List Filter} {f : Filter}

/-- One more of the comparisons in question replaces the bound on the sides that it has. -/
theorem lastBound_filter_concat (h : p f = true) :
    lastBound ((fs ++ [f]).filter p)
      = (lastBound (fs.filter p)).replace ⟨f.least?, f.greatest?⟩ := by
  rw [← lastBound_concat]
  simp [h]

/-- Other comparisons leave the bound as it is, and so does a `!=`. -/
theorem lastBound_filter_of_ne (h : p f = true → f.op = .ne) :
    lastBound ((fs ++ [f]).filter p) = lastBound (fs.filter p) := by
  cases hp : p f with
  | false => simp [hp]
  | true =>
      rw [lastBound_filter_concat hp]
      simp [Filter.least?, Filter.greatest?, h hp, Bound.replace]

end

/-! ### One comparison after the other -/

namespace Access

/-- The access after the comparisons `done` on indexed columns, when `data` bounds the data and
`filters` were there before. -/
structure Progress (hints : List Catalog.Hint) (data : Option Nat) (filters done : List Filter)
    (a : Access) : Prop where
  keyColumn : ∀ n, a.keyColumn = some n →
    hintAt hints n = .primaryKey ∧ ∃ f ∈ done, f.column = n ∧ f.op ≠ .ne
  keyColumn_isSome : ∀ f ∈ done, hintAt hints f.column = .primaryKey → f.op ≠ .ne →
    a.keyColumn.isSome = true
  key : a.key = (lastBound (done.filter (Filter.isKey hints))).raised
  secondaryColumn : a.secondaryColumn = data
  secondary : a.secondary = lastBound (done.filter (Filter.isOn data))
  filters : a.filters = filters ++ done.filter (Filter.isLeft hints data)

namespace Progress

variable {hints : List Catalog.Hint} {data : Option Nat} {filters done : List Filter}
  {a a' : Access} {f : Filter} {rs : List Record}

/-- The column of the key stays if the comparison does not bound it. -/
theorem keyColumn_concat (ha : Progress hints data filters done a)
    (hf : hintAt hints f.column = .primaryKey → f.op = .ne) :
    (∀ n, a.keyColumn = some n →
      hintAt hints n = .primaryKey ∧ ∃ g ∈ done ++ [f], g.column = n ∧ g.op ≠ .ne) ∧
    ∀ g ∈ done ++ [f], hintAt hints g.column = .primaryKey → g.op ≠ .ne →
      a.keyColumn.isSome = true := by
  refine ⟨fun n hn => ?_, fun g hg hkey hne => ?_⟩
  · obtain ⟨hkey, g, hg, hcolumn⟩ := ha.keyColumn n hn
    exact ⟨hkey, g, List.mem_append_left _ hg, hcolumn⟩
  · rcases List.mem_append.1 hg with hg | hg
    · exact ha.keyColumn_isSome g hg hkey hne
    · obtain rfl := List.mem_singleton.1 hg
      exact absurd (hf hkey) hne

/-- A comparison becomes a filter. -/
theorem demote (ha : Progress hints data filters done a)
    (hf : (hintAt hints f.column).isIndexed = true)
    (hguard : f.op = .ne ∨ hintAt hints f.column ≠ .primaryKey ∧ data ≠ some f.column) :
    Progress hints data filters (done ++ [f]) { a with filters := a.filters ++ [f] } := by
  have hkey : hintAt hints f.column = .primaryKey → f.op = .ne := fun h =>
    hguard.elim id fun hnot => absurd h hnot.1
  have hdata : data = some f.column → f.op = .ne := fun h =>
    hguard.elim id fun hnot => absurd h hnot.2
  have hleft : f.isLeft hints data = true := by
    rcases hguard with hne | ⟨hkey, hs⟩
    · simp [Filter.isLeft, hf, hne]
    · simp [Filter.isLeft, Filter.isKey, Filter.isOn, hf, hkey, hs]
  obtain ⟨hcolumn, hisSome⟩ := ha.keyColumn_concat hkey
  refine ⟨hcolumn, hisSome, ?_, ha.secondaryColumn, ?_, ?_⟩
  · rw [lastBound_filter_of_ne fun h => hkey (Filter.isKey_eq_true.1 h)]
    exact ha.key
  · rw [lastBound_filter_of_ne fun h => hdata (Filter.isOn_eq_true.1 h)]
    exact ha.secondary
  · simp [ha.filters, hleft]

/-- A comparison bounds the key. -/
theorem boundKey (ha : Progress hints data filters done a)
    (hkey : hintAt hints f.column = .primaryKey) (hdata : data ≠ some f.column)
    (hne : f.op ≠ .ne) :
    Progress hints data filters (done ++ [f])
      { a with
        keyColumn := some f.column
        key := a.key.replace (Bound.raised ⟨f.least?, f.greatest?⟩) } := by
  have hleft : f.isLeft hints data = false := by
    simp [Filter.isLeft, Filter.isKey, hkey, hne]
  refine ⟨fun n hn => ?_, fun _ _ _ _ => rfl, ?_, ha.secondaryColumn, ?_, ?_⟩
  · cases hn
    exact ⟨hkey, f, by simp, rfl, hne⟩
  · rw [lastBound_filter_concat (Filter.isKey_eq_true.2 hkey), Bound.raised_replace, ← ha.key]
  · rw [lastBound_filter_of_ne fun h => absurd (Filter.isOn_eq_true.1 h) hdata]
    exact ha.secondary
  · simp [ha.filters, hleft]

/-- A comparison bounds the data. -/
theorem boundData (ha : Progress hints data filters done a)
    (hkey : hintAt hints f.column ≠ .primaryKey) (hdata : data = some f.column)
    (hne : f.op ≠ .ne) :
    Progress hints data filters (done ++ [f])
      { a with secondary := a.secondary.replace ⟨f.least?, f.greatest?⟩ } := by
  have hleft : f.isLeft hints data = false := by
    simp [Filter.isLeft, Filter.isOn, hdata, hne]
  obtain ⟨hcolumn, hisSome⟩ := ha.keyColumn_concat fun h => absurd h hkey
  refine ⟨hcolumn, hisSome, ?_, ha.secondaryColumn, ?_, ?_⟩
  · rw [lastBound_filter_of_ne fun h => absurd (Filter.isKey_eq_true.1 h) hkey]
    exact ha.key
  · rw [lastBound_filter_concat (Filter.isOn_eq_true.2 hdata), ← ha.secondary]
  · simp [ha.filters, hleft]

/-- What one more comparison on an indexed column does.  The column that bounds the data is not the
key, so a comparison bounds the one or the other. -/
theorem add (hdata : ∀ n, data = some n → hintAt hints n ≠ .primaryKey)
    (ha : Progress hints data filters done a) (h : Gives (a.add hints f) a' rs)
    (hf : (hintAt hints f.column).isIndexed = true) :
    Progress hints data filters (done ++ [f]) a' := by
  have hbounds : ∀ b, f.bound? = .ok (some b) → f.op ≠ .ne := fun b hb hne => by
    simp [Filter.bound?, hne, pure_eq_ok] at hb
  obtain ⟨hguard, -, rfl⟩ | ⟨hkey, b, b', hb, hb', -, rfl⟩ | ⟨hkey, hs, b, hb, -, rfl⟩ :=
    add_cases h
  · rw [ha.secondaryColumn] at hguard
    exact ha.demote hf hguard
  · obtain ⟨-, rfl⟩ := Filter.keyBound_eq_ok hb'
    have hne := hbounds b hb
    obtain ⟨rfl, -⟩ := Filter.bound?_eq_ok hb
    exact ha.boundKey hkey (fun hd => hdata _ hd hkey) hne
  · have hne := hbounds b hb
    obtain ⟨rfl, -⟩ := Filter.bound?_eq_ok hb
    exact ha.boundData hkey (ha.secondaryColumn.symm.trans hs) hne

/-- What comparisons on indexed columns do, one after the other. -/
theorem foldlM (hdata : ∀ n, data = some n → hintAt hints n ≠ .primaryKey) {cs : List Filter}
    (hcs : ∀ f ∈ cs, (hintAt hints f.column).isIndexed = true)
    (ha : Progress hints data filters done a)
    (h : Gives (cs.foldlM (Access.add hints) a) a' rs) :
    Progress hints data filters (done ++ cs) a' := by
  induction cs generalizing a done rs with
  | nil =>
      obtain ⟨rfl, -⟩ := gives_pure.1 h
      rwa [List.append_nil]
  | cons f cs ih =>
      rw [List.foldlM_cons, gives_bind] at h
      obtain ⟨a₁, rs₁, rs₂, h₁, h₂, -⟩ := h
      have hf := hcs f List.mem_cons_self
      have := ih (fun g hg => hcs g (List.mem_cons_of_mem _ hg)) (ha.add hdata h₁ hf) h₂
      rwa [List.append_assoc] at this

end Progress

end Access

/-! ### Sorting keeps the order on each column -/

section

variable {hints : List Catalog.Hint} {fs : List Filter}

/-- Comparisons on one column keep their order: those in question are a sorted part of the
comparisons, so they are a part of the sorted ones as well, and there are as many of them. -/
theorem filter_candidates {p : Filter → Bool}
    (hp : ∀ f ∈ fs, p f = true → (hintAt hints f.column).isIndexed = true)
    (hcolumn : ∀ f ∈ fs, ∀ g ∈ fs, p f = true → p g = true → f.column = g.column) :
    (candidates hints fs).filter p = fs.filter p := by
  have hindexed : (fs.filter fun f => (hintAt hints f.column).isIndexed).filter p
      = fs.filter p := by
    rw [List.filter_filter]
    refine List.filter_congr fun f hf => ?_
    cases hpf : p f with
    | false => rfl
    | true => simp [hp f hf hpf]
  have hsame : (fs.filter p).Pairwise fun f g => decide (f.column ≤ g.column) = true := by
    refine List.pairwise_of_forall_mem_list fun f hf g hg => ?_
    obtain ⟨hf, hpf⟩ := List.mem_filter.1 hf
    obtain ⟨hg, hpg⟩ := List.mem_filter.1 hg
    exact decide_eq_true (hcolumn f hf g hg hpf hpg).le
  have hsub : (fs.filter p).Sublist (candidates hints fs) := by
    refine List.sublist_mergeSort ?_ ?_ hsame ?_
    · simpa using fun f g h => le_trans
    · simpa using fun f g : Filter => le_total f.column g.column
    · rw [← hindexed]
      exact List.filter_sublist
  have hlength : ((candidates hints fs).filter p).length = (fs.filter p).length := by
    rw [← hindexed]
    exact ((List.mergeSort_perm _ _).filter p).length_eq
  have hfilter := hsub.filter p
  simp only [List.filter_filter, Bool.and_self] at hfilter
  exact (hfilter.eq_of_length hlength.symm).symm

/-- Sorted comparisons on the first columns, and those on the next one after them. -/
theorem filter_lt_append_filter_eq {width : Nat}
    (hsorted : fs.Pairwise fun f g => f.column ≤ g.column) (hle : ∀ f ∈ fs, f.column ≤ width) :
    (fs.filter fun f => decide (f.column < width)) ++ (fs.filter fun f => f.column == width)
      = fs := by
  induction fs with
  | nil => rfl
  | cons f fs ih =>
      obtain ⟨hfirst, hsorted⟩ := List.pairwise_cons.1 hsorted
      obtain ⟨hf, hle⟩ := List.forall_mem_cons.1 hle
      rcases Nat.lt_or_eq_of_le hf with hlt | rfl
      · simp [hlt, Nat.ne_of_lt hlt, ih hsorted hle]
      · have hrest : ∀ g ∈ fs, g.column = f.column := fun g hg =>
          le_antisymm (hle g hg) (hfirst g hg)
        have hnone : (fs.filter fun g => decide (g.column < f.column)) = [] := by
          simpa [List.filter_eq_nil_iff] using hfirst
        have hall : (fs.filter fun g => g.column == f.column) = fs := by
          simpa [List.filter_eq_self] using hrest
        simp [hnone, hall]

/-- Comparisons in the order of the columns are sorted already if each comes where it is: by
induction on the number of columns. -/
theorem byColumn_of_pairwise {width : Nat} (hsorted : fs.Pairwise fun f g => f.column ≤ g.column)
    (hlt : ∀ f ∈ fs, f.column < width) : byColumn width fs = fs := by
  induction width generalizing fs with
  | zero =>
      cases fs with
      | nil => rfl
      | cons f fs => exact absurd (hlt f List.mem_cons_self) (Nat.not_lt_zero _)
  | succ width ih =>
      have hbefore : byColumn width fs = fs.filter fun f => decide (f.column < width) := by
        rw [← ih (hsorted.filter _) fun f hf => by simpa using (List.mem_filter.1 hf).2]
        refine List.flatMap_congr fun n hn => ?_
        rw [List.filter_filter]
        refine List.filter_congr fun f _ => ?_
        have hn := List.mem_range.1 hn
        by_cases hfn : f.column = n
        · simp [hfn, hn]
        · simp [hfn]
      have hsplit : byColumn (width + 1) fs
          = byColumn width fs ++ fs.filter fun f => f.column == width := by
        simp [byColumn, List.range_succ]
      rw [hsplit, hbefore]
      exact filter_lt_append_filter_eq hsorted fun f hf => Nat.le_of_lt_succ (hlt f hf)

theorem lt_length_of_isIndexed {n : Nat} (h : (hintAt hints n).isIndexed = true) :
    n < hints.length := by
  by_contra hn
  rw [hintAt, List.getElem?_eq_none (by omega)] at h
  cases h

/-- Comparisons on indexed columns are worked off column by column. -/
theorem filter_candidates_eq_byColumn {p : Filter → Bool}
    (hp : ∀ f ∈ fs, p f = true → (hintAt hints f.column).isIndexed = true) :
    (candidates hints fs).filter p = byColumn hints.length (fs.filter p) := by
  have hsorted := (Access.pairwise_candidates hints fs).filter p
  have hlt : ∀ f ∈ (candidates hints fs).filter p, f.column < hints.length := fun f hf =>
    lt_length_of_isIndexed (Access.mem_candidates.1 (List.mem_filter.1 hf).1).2
  rw [← byColumn_of_pairwise hsorted hlt]
  refine List.flatMap_congr fun n _ => ?_
  rw [List.filter_filter, List.filter_filter]
  refine filter_candidates (fun f hf hpf => ?_) fun f hf g hg hpf hpg => ?_
  · exact hp f hf (Bool.and_eq_true_iff.1 hpf).2
  · simp only [Bool.and_eq_true, beq_iff_eq] at hpf hpg
    exact hpf.1.trans hpg.1.symm

theorem candidates_eq_byColumn (hints : List Catalog.Hint) (fs : List Filter) :
    candidates hints fs
      = byColumn hints.length (fs.filter fun f => (hintAt hints f.column).isIndexed) := by
  rw [← filter_candidates_eq_byColumn fun f _ hf => hf]
  exact (List.filter_eq_self.2 fun f hf => (Access.mem_candidates.1 hf).2).symm

/-! ### The column that bounds the data -/

theorem dataColumn?_eq_some {n : Nat} :
    dataColumn? hints fs = some n ↔
      (∃ f ∈ fs, boundsData hints f = true ∧ f.column = n) ∧
        ∀ f ∈ fs, boundsData hints f = true → n ≤ f.column := by
  rw [dataColumn?, List.min?_eq_some_iff]
  simp only [List.mem_map, List.mem_filter, forall_exists_index, and_imp, and_assoc]
  refine and_congr_right fun _ => ⟨fun h f hf hb => h _ f hf hb rfl, fun h n f hf hb hn => ?_⟩
  exact hn ▸ h f hf hb

/-- The column that bounds the data has an index and is not the key. -/
theorem not_primaryKey_of_dataColumn? {n : Nat} (h : dataColumn? hints fs = some n) :
    (hintAt hints n).isIndexed = true ∧ hintAt hints n ≠ .primaryKey := by
  obtain ⟨⟨f, -, hf, rfl⟩, -⟩ := dataColumn?_eq_some.1 h
  refine ⟨isIndexed_of_boundsData hf, fun hkey => ?_⟩
  simp [boundsData, hkey] at hf

end

section

variable {q : Resolved} {fs : List Filter}

theorem dataColumn?_iff (hfs : ∀ f, f ∈ fs ↔ q.Asks f) {n : Nat} :
    dataColumn? q.hints fs = some n ↔ q.DataColumn n := by
  rw [dataColumn?_eq_some, Resolved.DataColumn]
  simp only [hfs]

/-- The first of the sorted comparisons that can bound the data is on the lowest column of such. -/
theorem secondaryColumn_eq (hfs : ∀ f, f ∈ fs ↔ q.Asks f) :
    (Access.start q.hints fs).secondaryColumn = dataColumn? q.hints fs := by
  cases hdata : dataColumn? q.hints fs with
  | some n => exact secondaryColumn_start hfs ((dataColumn?_iff hfs).1 hdata)
  | none =>
      have hnone : ∀ f ∈ fs, ¬ boundsData q.hints f = true := by
        simpa [dataColumn?, List.min?_eq_none_iff] using hdata
      have hfind : (candidates q.hints fs).find? (boundsData q.hints) = none :=
        List.find?_eq_none.2 fun f hf => hnone f (Access.mem_candidates.1 hf).1
      rw [Access.start, hfind]
      rfl

/-- **The access that comparisons are given.**  At most one column is the key. -/
theorem Access.exact_of_gives {a : Access} {rs : List Record} (hfs : ∀ f, f ∈ fs ↔ q.Asks f)
    (hkey : ∀ m n, hintAt q.hints m = .primaryKey → hintAt q.hints n = .primaryKey → m = n)
    (h : Gives (Access.ofFilters q.hints fs) a rs) : a.Exact q.hints fs := by
  obtain ⟨a, hrun, rfl⟩ := Access.ofFilters_gives h
  have hstart : Access.Progress q.hints (dataColumn? q.hints fs)
      (fs.filter fun f => !(hintAt q.hints f.column).isIndexed) [] (Access.start q.hints fs) := by
    refine ⟨?_, by simp, rfl, secondaryColumn_eq hfs, rfl, by simp [Access.start]⟩
    intro n hn
    cases hn
  have ha := hstart.foldlM (fun n hn => (not_primaryKey_of_dataColumn? hn).2)
    (fun f hf => (Access.mem_candidates.1 hf).2) hrun
  rw [List.nil_append] at ha
  refine ⟨fun n => ⟨fun hn => ?_, ?_⟩, ?_, ha.secondaryColumn, ?_, ?_⟩
  · obtain ⟨hn, f, hf, hcolumn⟩ := ha.keyColumn n hn
    exact ⟨hn, f, (Access.mem_candidates.1 hf).1, hcolumn⟩
  · rintro ⟨hn, f, hf, rfl, hne⟩
    have hmem : f ∈ candidates q.hints fs := Access.mem_candidates.2 ⟨hf, by rw [hn]; rfl⟩
    obtain ⟨m, hm⟩ := Option.isSome_iff_exists.1 (ha.keyColumn_isSome f hmem hn hne)
    rw [hkey _ _ hn (ha.keyColumn m hm).1]
    exact hm
  · -- comparisons on the key are on one column, and so are those on the data
    show a.key = _
    rw [ha.key, filter_candidates (p := Filter.isKey q.hints)]
    · intro f _ hf
      rw [Filter.isKey_eq_true.1 hf]
      rfl
    · intro f _ g _ hf hg
      exact hkey _ _ (Filter.isKey_eq_true.1 hf) (Filter.isKey_eq_true.1 hg)
  · show a.secondary = _
    rw [ha.secondary, filter_candidates (p := Filter.isOn (dataColumn? q.hints fs))]
    · intro f _ hf
      exact (not_primaryKey_of_dataColumn? (Filter.isOn_eq_true.1 hf)).1
    · intro f _ g _ hf hg
      rw [Filter.isOn_eq_true] at hf hg
      exact Option.some.inj (hf.symm.trans hg)
  · have hindexed : ∀ f ∈ fs, Filter.isLeft q.hints (dataColumn? q.hints fs) f = true →
        (hintAt q.hints f.column).isIndexed = true := by
      intro f _ hf
      simp only [Filter.isLeft, Bool.and_eq_true] at hf
      exact hf.1
    rw [← filter_candidates_eq_byColumn hindexed, ← ha.filters]

end

/-! ### Comparisons that are refused -/

namespace Filter

variable {f : Filter} {b : Bound}

/-- A comparison has an inclusive bound exactly if it does not overflow. -/
theorem bound?_of_not_overflows (h : ¬ f.Overflows) (hne : f.op ≠ .ne) :
    f.bound? = .ok (some ⟨f.least?, f.greatest?⟩) := by
  obtain ⟨hgt, hlt⟩ := not_or.1 h
  cases hop : f.op with
  | ne => exact absurd hop hne
  | gt =>
      have hword : isWord (f.value + 1) = true := by simpa [hop] using hgt
      simp [bound?, least?, greatest?, hop, inWord, hword, bind, Except.bind, pure, Except.pure]
  | lt =>
      have hword : isWord (f.value - 1) = true := by simpa [hop] using hlt
      simp [bound?, least?, greatest?, hop, inWord, hword, bind, Except.bind, pure, Except.pure]
  | _ => simp [bound?, least?, greatest?, hop, pure, Except.pure]

theorem not_overflows_of_bound? {b : Option Bound} (h : f.bound? = .ok b) : ¬ f.Overflows := by
  unfold bound? at h
  rintro (⟨hop, hword⟩ | ⟨hop, hword⟩) <;>
    simp [hop, inWord, hword, bind, Except.bind] at h

theorem bound?_of_ne (h : f.op = .ne) : f.bound? = .ok none := by
  simp [bound?, h, pure, Except.pure]

theorem keyBound_of_nonneg (h : ∀ v, b.max = some v → 0 ≤ v) : f.keyBound b = .ok b.raised := by
  cases hmax : b.max with
  | none => simp [keyBound, Bound.raised, hmax]
  | some v => simp [keyBound, Bound.raised, hmax, h v hmax]

end Filter

namespace Access

variable {hints : List Catalog.Hint} {a a' : Access} {f : Filter} {rs : List Record}

theorem secondaryColumn_add (h : Gives (a.add hints f) a' rs) :
    a'.secondaryColumn = a.secondaryColumn := by
  obtain ⟨-, -, rfl⟩ | ⟨-, b, b', -, -, -, rfl⟩ | ⟨-, -, b, -, -, rfl⟩ := add_cases h <;> rfl

theorem not_refused_of_gives (h : Gives (a.add hints f) a' rs) :
    ¬ f.Refused hints a.secondaryColumn := by
  obtain ⟨hguard, -, -⟩ | ⟨hkey, b, b', hb, hb', -, -⟩ | ⟨hkey, -, b, hb, -, -⟩ := add_cases h
  · rcases hguard with hne | ⟨hkey, hs⟩
    · rintro (⟨-, ⟨hop, -⟩ | ⟨hop, -⟩⟩ | ⟨-, v, hv, -⟩)
      · rw [hne] at hop; cases hop
      · rw [hne] at hop; cases hop
      · simp [Filter.greatest?, hne] at hv
    · rintro (⟨hindex, -⟩ | ⟨hindex, -⟩)
      · exact hindex.elim hkey hs
      · exact hkey hindex
  · obtain ⟨hmax, -⟩ := Filter.keyBound_eq_ok hb'
    rintro (⟨-, hover⟩ | ⟨-, v, hv, hneg⟩)
    · exact Filter.not_overflows_of_bound? hb hover
    · obtain ⟨rfl, -⟩ := Filter.bound?_eq_ok hb
      exact absurd (hmax v hv) (by omega)
  · rintro (⟨-, hover⟩ | ⟨hindex, -⟩)
    · exact Filter.not_overflows_of_bound? hb hover
    · exact hkey hindex

/-- A comparison on an indexed column is worked off unless it is refused. -/
theorem exists_ok_add (h : ¬ f.Refused hints a.secondaryColumn) :
    ∃ a', (a.add hints f).run.value = .ok a' := by
  obtain ⟨hover, hneg⟩ := not_or.1 h
  unfold add
  dsimp only
  split
  · exact ⟨_, rfl⟩
  · next hindex =>
      have hindex : hintAt hints f.column = .primaryKey ∨ a.secondaryColumn = some f.column := by
        simpa [Classical.or_iff_not_imp_left] using hindex
      by_cases hne : f.op = .ne
      · rw [Filter.bound?_of_ne hne]
        exact ⟨_, rfl⟩
      · rw [Filter.bound?_of_not_overflows (fun h => hover ⟨hindex, h⟩) hne]
        rw [value_bind_of_ok (a := some ⟨f.least?, f.greatest?⟩) rfl]
        dsimp only
        split
        · next hkey =>
            have hmax : ∀ v, f.greatest? = some v → 0 ≤ v := fun v hv =>
              Int.not_lt.1 fun hlt => hneg ⟨hkey, v, hv, hlt⟩
            rw [Filter.keyBound_of_nonneg hmax]
            exact ⟨_, rfl⟩
        · exact ⟨_, rfl⟩

/-- Comparisons on indexed columns are worked off unless one of them is refused. -/
theorem exists_ok_foldlM_iff {cs : List Filter} :
    (∃ a', (cs.foldlM (Access.add hints) a).run.value = .ok a') ↔
      ∀ f ∈ cs, ¬ f.Refused hints a.secondaryColumn := by
  induction cs generalizing a with
  | nil =>
      refine ⟨fun _ f hf => ?_, fun _ => ⟨a, rfl⟩⟩
      cases hf
  | cons f cs ih =>
      simp only [List.forall_mem_cons, List.foldlM_cons, value_bind_eq_ok]
      constructor
      · rintro ⟨a', a₁, h₁, h₂⟩
        have h₁ := gives_iff.2 ⟨h₁, rfl⟩
        refine ⟨not_refused_of_gives h₁, ?_⟩
        rw [← secondaryColumn_add h₁]
        exact ih.1 ⟨a', h₂⟩
      · rintro ⟨hf, hcs⟩
        obtain ⟨a₁, h₁⟩ := exists_ok_add hf
        rw [← secondaryColumn_add (gives_iff.2 ⟨h₁, rfl⟩)] at hcs
        obtain ⟨a', h₂⟩ := ih.2 hcs
        exact ⟨a', a₁, h₁, h₂⟩

theorem exists_ok_ofFilters_iff {fs : List Filter} :
    (∃ a, (ofFilters hints fs).run.value = .ok a) ↔
      ∀ f ∈ candidates hints fs, ¬ f.Refused hints (start hints fs).secondaryColumn := by
  rw [← exists_ok_foldlM_iff]
  unfold ofFilters
  simp only [value_bind_eq_ok]
  constructor
  · rintro ⟨_, a, h, -⟩
    exact ⟨a, h⟩
  · rintro ⟨a, h⟩
    exact ⟨_, a, h, rfl⟩

end Access

section

variable {q : Resolved}

/-- The conditions of a query are comparisons with integers exactly if they can be read as such. -/
theorem mapM_ofComparison_eq_ok {cs : List Comparison} {fs : List Filter} :
    cs.mapM Filter.ofComparison = .ok fs ↔ cs = fs.map Filter.comparison := by
  rw [mapM_eq_ok]
  constructor
  · intro h
    induction h with
    | nil => rfl
    | @cons c f cs fs hc _ ih =>
        obtain ⟨column, op, l⟩ := c
        cases l with
        | integer v =>
            cases hc
            rw [List.map_cons, ← ih]
            rfl
        | _ => cases hc
  · rintro rfl
    induction fs with
    | nil => exact .nil
    | cons f fs ih => exact .cons rfl ih

theorem exists_integers (h : ∀ c ∈ q.predicates, c.literal.integer? ≠ none) :
    ∃ fs, q.predicates.mapM Filter.ofComparison = .ok fs := by
  generalize q.predicates = cs at h
  induction cs with
  | nil => exact ⟨[], rfl⟩
  | cons c cs ih =>
      obtain ⟨hc, hcs⟩ := List.forall_mem_cons.1 h
      obtain ⟨v, hv⟩ := Option.ne_none_iff_exists'.1 hc
      obtain ⟨fs, hfs⟩ := ih hcs
      refine ⟨⟨c.column, c.op, v⟩ :: fs, ?_⟩
      rw [mapM_eq_ok] at hfs ⊢
      exact .cons (by rw [Filter.ofComparison, hv]) hfs

/-- A query with comparisons with integers is refused exactly if one of those on an indexed column
is. -/
theorem refused_iff {fs : List Filter} (hfs : q.predicates.mapM Filter.ofComparison = .ok fs) :
    q.Refused ↔ ∃ f ∈ candidates q.hints fs, f.Refused q.hints (dataColumn? q.hints fs) := by
  have hasks : ∀ f, f ∈ fs ↔ q.Asks f := fun f => mem_iff_asks hfs
  have hmem : ∀ f, q.Asks f →
      hintAt q.hints f.column = .primaryKey ∨ dataColumn? q.hints fs = some f.column →
      f ∈ candidates q.hints fs := by
    intro f hf hindex
    refine Access.mem_candidates.2 ⟨(hasks f).2 hf, ?_⟩
    rcases hindex with hkey | hdata
    · rw [hkey]
      rfl
    · exact (not_primaryKey_of_dataColumn? hdata).1
  constructor
  · rintro (⟨hc, hnone⟩ | ⟨hf, hover, hindex⟩ | ⟨hf, hkey, hv, hneg⟩)
    · obtain ⟨f, hf⟩ := exists_of_forall₂ (mapM_eq_ok.1 hfs) hc
      rw [Filter.ofComparison, hnone] at hf
      cases hf
    · rw [← dataColumn?_iff hasks] at hindex
      exact ⟨_, hmem _ hf hindex, .inl ⟨hindex, hover⟩⟩
    · exact ⟨_, hmem _ hf (.inl hkey), .inr ⟨hkey, _, hv, hneg⟩⟩
  · rintro ⟨f, hf, ⟨hindex, hover⟩ | ⟨hkey, v, hv, hneg⟩⟩
    · rw [dataColumn?_iff hasks] at hindex
      exact .overflow ((hasks f).1 (Access.mem_candidates.1 hf).1) hover hindex
    · exact .negative ((hasks f).1 (Access.mem_candidates.1 hf).1) hkey hv hneg

/-- A query over one table has an access unless it is refused. -/
theorem Access.exists_ok_iff (htables : q.tables.length = 1) (hjoin : q.outerJoin = false) :
    (∃ a, (Access.ofQuery q).run.value = .ok a) ↔ ¬ q.Refused := by
  constructor
  · rintro ⟨a, h⟩ hrefused
    obtain ⟨-, -, fs, hfs, h⟩ := Access.ofQuery_gives (gives_iff.2 ⟨h, rfl⟩)
    obtain ⟨f, hf, hfr⟩ := (refused_iff hfs).1 hrefused
    rw [← secondaryColumn_eq fun f => mem_iff_asks hfs] at hfr
    exact Access.exists_ok_ofFilters_iff.1 ⟨a, (gives_iff.1 h).1⟩ f hf hfr
  · intro hrefused
    obtain ⟨fs, hfs⟩ := exists_integers fun c hc hnone => hrefused (.literal hc hnone)
    have hcs : ∀ f ∈ candidates q.hints fs,
        ¬ f.Refused q.hints (Access.start q.hints fs).secondaryColumn := by
      intro f hf hfr
      rw [secondaryColumn_eq fun f => mem_iff_asks hfs] at hfr
      exact hrefused ((refused_iff hfs).2 ⟨f, hf, hfr⟩)
    obtain ⟨a, h⟩ := Access.exists_ok_ofFilters_iff.2 hcs
    refine ⟨a, ?_⟩
    unfold Access.ofQuery
    rw [if_neg (by simp [htables]), if_neg (by simp [hjoin])]
    exact value_bind_eq_ok.2 ⟨fs, hfs, h⟩

theorem Filter.comparison_injective : Function.Injective Filter.comparison := by
  rintro ⟨column, op, v⟩ ⟨column', op', v'⟩ h
  cases h
  rfl

/-- **The access of a query over one table, and when it has none.**  If there is one, the conditions
of the query are comparisons with integers, and they go where `Access.Exact` says.  There is none
exactly if the conditions are refused, and then for their types. -/
theorem classification {t : Catalog.Table} (htables : q.tables = [t])
    (hjoin : q.outerJoin = false) (hhints : q.hints = t.hints) :
    (∀ a, (Access.ofQuery q).run.value = .ok a →
      ∃ fs : List Filter, q.predicates = fs.map Filter.comparison ∧ a.Exact q.hints fs) ∧
    ((∃ e, (Access.ofQuery q).run.value = .error e) ↔ q.Refused) ∧
    ∀ e, (Access.ofQuery q).run.value = .error e → e.code = "EMBEDDB_TYPE_ERROR" := by
  have hlength : q.tables.length = 1 := by rw [htables]; rfl
  have hkey : ∀ m n, hintAt q.hints m = .primaryKey → hintAt q.hints n = .primaryKey → m = n := by
    intro m n hm hn
    rw [hhints] at hm hn
    exact Option.some.inj ((primaryKey_of_hintAt hm).symm.trans (primaryKey_of_hintAt hn))
  refine ⟨fun a ha => ?_, ?_, fun e he => ?_⟩
  · obtain ⟨-, -, fs, hfs, h⟩ := Access.ofQuery_gives (gives_iff.2 ⟨ha, rfl⟩)
    exact ⟨fs, mapM_ofComparison_eq_ok.1 hfs,
      Access.exact_of_gives (fun f => mem_iff_asks hfs) hkey h⟩
  · rw [← not_iff_not, ← Access.exists_ok_iff hlength hjoin]
    cases (Access.ofQuery q).run.value <;> simp
  · obtain ⟨cause, rfl⟩ := (types_of_access hlength hjoin).2 e he
    rfl

end

/-- A table of stations, with indexes on the pressure and on the temperature. -/
def stations : Catalog.Table where
  name := "stations"
  columns := [⟨"id", .int32⟩, ⟨"temp", .int32⟩, ⟨"pres", .int32⟩, ⟨"wind", .int32⟩]
  primaryKey := some 0
  indexes := [⟨"byPres", 2⟩, ⟨"byTemp", 1⟩]

/-- Comparisons on all columns in no order, of which one is overwritten and one is repeated. -/
def windyFilters : List Filter :=
  [⟨2, .lt, 900⟩, ⟨1, .ge, 20⟩, ⟨0, .gt, -5⟩, ⟨3, .eq, 1⟩, ⟨1, .gt, 5⟩, ⟨3, .eq, 1⟩, ⟨0, .le, 50⟩,
   ⟨1, .ne, 7⟩]

/-- The query with these comparisons. -/
def windyStations : Resolved :=
  { Resolved.ofTable stations with
    predicates := windyFilters.map Filter.comparison
    projections := [{ name := "id", kind := .column 0 }] }

theorem access_windyStations :
    Access.ofQuery windyStations = Access.ofFilters windyStations.hints windyFilters := rfl

theorem classification_windyStations :
    (∃ a, (Access.ofQuery windyStations).run.value = .ok a ∧ a.keyColumn = some 0 ∧
      a.key = ⟨some 0, some 50⟩ ∧ a.secondaryColumn = some 1 ∧ a.secondary = ⟨some 6, none⟩ ∧
      a.filters = [⟨3, .eq, 1⟩, ⟨1, .ne, 7⟩, ⟨2, .lt, 900⟩]) ∧
    ∃ e, (Access.ofQuery negative).run.value = .error e ∧ e.code = "EMBEDDB_TYPE_ERROR" := by
  refine ⟨?_, ?_⟩
  · obtain ⟨a, ha⟩ : ∃ a, (Access.ofQuery windyStations).run.value = .ok a := by
      rw [access_windyStations, Access.ofFilters, candidates_eq_byColumn]
      exact ⟨_, rfl⟩
    obtain ⟨fs, hfs, hexact⟩ := (classification (t := stations) rfl rfl rfl).1 a ha
    obtain rfl : windyFilters = fs := Filter.comparison_injective.list_map hfs
    refine ⟨a, ha, ?_, hexact.key.trans (by decide), hexact.secondaryColumn.trans (by decide),
      hexact.secondary.trans (by decide), hexact.filters.trans (by decide)⟩
    exact (hexact.keyColumn 0).2 ⟨by decide, ⟨0, .le, 50⟩, by decide, rfl, by decide⟩
  · obtain ⟨-, hrefused, hcode⟩ := classification (q := negative) (t := samples) rfl rfl rfl
    have hasks : negative.Asks ⟨0, .lt, 0⟩ := List.mem_singleton_self _
    have hgreatest : Filter.greatest? ⟨0, .lt, 0⟩ = some (-1) := rfl
    obtain ⟨e, he⟩ := hrefused.2 (.negative hasks rfl hgreatest (by decide))
    exact ⟨e, he, hcode e he⟩

end Plan

end SqlPipeline
