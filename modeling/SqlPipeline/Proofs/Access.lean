/-
**Bounds and filters admit the records that the conditions admit.**

`Plan.Access.ofFilters` sends each comparison of a query to the bounds on the key, to the bounds on
one indexed column, or to the filters.  A later bound on the same side replaces an earlier one, so
a comparison can get lost; when it does, a record of the event `boundOverwritten` tells.  Here the
access is read as a test on records and compared with the comparisons it was made from.

Main definitions:

* `Plan.Bound.contains`, `Plan.Filter.holds`, `Plan.Access.admits` — a value lies within bounds, and
  a record passes a filter, and an access;
* `Plan.Silent` — no record tells of a bound that was replaced.

Main results:

* `Plan.Access.add_cases` — all that one comparison on an indexed column can do to an access;
* `Plan.Access.admits_of_holds` — no record that meets the comparisons is lost;
* `Plan.Access.holds_of_admits` — if no bound was replaced by another, no other record is admitted.
-/

import SqlPipeline.Plan.Access
import SqlPipeline.Proofs.Outcome
import SqlPipeline.Proofs.Truth

set_option autoImplicit false

namespace SqlPipeline.Plan

open Journal Query Outcome

/-! ### Bounds -/

namespace Bound

/-- Whether a value lies within bounds. -/
def contains (b : Bound) (v : Int) : Bool :=
  b.min.all (· ≤ v) && b.max.all (v ≤ ·)

theorem contains_iff {b : Bound} {v : Int} :
    b.contains v = true ↔ (∀ m ∈ b.min, m ≤ v) ∧ (∀ m ∈ b.max, v ≤ m) := by
  simp [contains, Option.all_eq_true]

/-- The sides of a bound that replaces another come from one of the two. -/
theorem contains_replace {earlier later : Bound} {v : Int} (he : earlier.contains v = true)
    (hl : later.contains v = true) : (earlier.replace later).contains v = true := by
  rw [contains_iff] at *
  refine ⟨fun m hm => ?_, fun m hm => ?_⟩
  · rcases Option.or_eq_some_iff.1 hm with h | ⟨-, h⟩
    · exact hl.1 m h
    · exact he.1 m h
  · rcases Option.or_eq_some_iff.1 hm with h | ⟨-, h⟩
    · exact hl.2 m h
    · exact he.2 m h

end Bound

/-! ### Records of replaced bounds -/

/-- No record tells of a bound that was replaced by a different one. -/
def Silent (rs : List Record) : Prop :=
  ∀ r ∈ rs, r.event ≠ Event.boundOverwritten.name

theorem silent_append {rs₁ rs₂ : List Record} :
    Silent (rs₁ ++ rs₂) ↔ Silent rs₁ ∧ Silent rs₂ := by
  simp only [Silent, List.mem_append]
  exact ⟨fun h => ⟨fun r hr => h r (.inl hr), fun r hr => h r (.inr hr)⟩,
    fun h r hr => hr.elim (h.1 r) (h.2 r)⟩

/-- If no record tells of it, a side keeps the value that it had. -/
theorem eq_of_silent_overwritten {f : Filter} {index side : String} {earlier later : Option Int}
    (h : Silent (overwritten f index side earlier later)) {e l : Int} (he : earlier = some e)
    (hl : later = some l) : e = l := by
  subst he hl
  by_contra hne
  simp only [overwritten, if_neg hne] at h
  exact h _ (List.mem_singleton.2 rfl) rfl

/-- If no record tells of it, a bound that replaces another loses nothing. -/
theorem Bound.contains_of_replace {f : Filter} {index : String} {earlier later : Bound} {v : Int}
    (hs : Silent (replaced f index earlier later))
    (h : (earlier.replace later).contains v = true) :
    earlier.contains v = true ∧ later.contains v = true := by
  obtain ⟨hmin, hmax⟩ := silent_append.1 hs
  -- on each side the two bounds are equal where both are there
  have side : ∀ {e l : Option Int} {p : Int → Prop}, (∀ x y, e = some x → l = some y → x = y) →
      (∀ m ∈ l.or e, p m) → (∀ m ∈ e, p m) ∧ (∀ m ∈ l, p m) := by
    intro e l p heq hp
    cases l with
    | none => exact ⟨fun m hm => hp m (by simpa using hm), fun m hm => by cases hm⟩
    | some y =>
        have hy : p y := hp y rfl
        refine ⟨fun m hm => ?_, fun m hm => ?_⟩
        · rw [heq m y hm rfl]
          exact hy
        · cases hm
          exact hy
  rw [contains_iff] at h
  obtain ⟨h₁, h₂⟩ := side (fun _ _ => eq_of_silent_overwritten hmin) h.1
  obtain ⟨h₃, h₄⟩ := side (fun _ _ => eq_of_silent_overwritten hmax) h.2
  exact ⟨contains_iff.2 ⟨h₁, h₃⟩, contains_iff.2 ⟨h₂, h₄⟩⟩

/-! ### Filters as bounds -/

namespace Filter

/-- Whether a record passes a filter. -/
def holds (f : Filter) (r : Row) : Bool :=
  f.op.holds (r.value f.column) f.value

theorem inWord_eq_ok {f : Filter} {v w : Int} (h : f.inWord v = .ok w) : w = v := by
  unfold inWord at h
  split at h <;> cases h
  rfl

theorem op_eq_ne_of_bound (f : Filter) (h : f.bound? = .ok none) : f.op = .ne := by
  unfold bound? at h
  cases hop : f.op with
  | ne => rfl
  | _ => simp only [hop, bind_eq_ok, pure_eq_ok, reduceCtorEq, and_false, exists_false] at h

/-- The inclusive bound of a filter contains exactly the values that pass it. -/
theorem contains_bound {f : Filter} {b : Bound} (h : f.bound? = .ok (some b)) (v : Int) :
    b.contains v = f.op.holds v f.value := by
  unfold bound? at h
  cases hop : f.op with
  | ne => simp [hop, pure_eq_ok] at h
  | gt =>
      simp only [hop, bind_eq_ok, pure_eq_ok, Option.some.injEq] at h
      obtain ⟨w, hw, rfl⟩ := h
      simp [Bound.contains, Comparator.holds, inWord_eq_ok hw]
  | lt =>
      simp only [hop, bind_eq_ok, pure_eq_ok, Option.some.injEq] at h
      obtain ⟨w, hw, rfl⟩ := h
      simp [Bound.contains, Comparator.holds, inWord_eq_ok hw]
  | eq =>
      simp only [hop, pure_eq_ok, Option.some.injEq] at h
      subst h
      rw [Bool.eq_iff_iff]
      simp only [Bound.contains, Comparator.holds, Option.all_some, Bool.and_eq_true,
        decide_eq_true_eq, beq_iff_eq]
      omega
  | ge =>
      simp only [hop, pure_eq_ok, Option.some.injEq] at h
      subst h
      simp [Bound.contains, Comparator.holds]
  | le =>
      simp only [hop, pure_eq_ok, Option.some.injEq] at h
      subst h
      simp [Bound.contains, Comparator.holds]

/-- Raising the lower bound to zero loses no value of a key. -/
theorem contains_keyBound {f : Filter} {b b' : Bound} (h : f.keyBound b = .ok b') {v : Int}
    (hv : 0 ≤ v) : b'.contains v = b.contains v := by
  unfold keyBound at h
  split at h <;> cases h
  cases hb : b.min with
  | none => simp [Bound.contains, hb]
  | some m => simp [Bound.contains, hb, hv]

end Filter

/-! ### One comparison on an indexed column -/

namespace Access

/-- Whether a record is within the bounds of an access and passes its filters.  The key of a
record is its first column. -/
def admits (a : Access) (r : Row) : Bool :=
  a.key.contains (r.value 0) && (a.secondaryColumn.all fun n => a.secondary.contains (r.value n))
    && a.filters.all fun f => f.holds r

theorem demote_gives {a a' : Access} {f : Filter} {rs : List Record}
    (h : Gives (a.demote f) a' rs) :
    rs = [f.demoted] ∧ a' = { a with filters := a.filters ++ [f] } := by
  unfold demote at h
  simp only [gives_bind, gives_logged, gives_pure] at h
  obtain ⟨_, _, _, ⟨-, rfl⟩, ⟨rfl, rfl⟩, rfl⟩ := h
  exact ⟨rfl, rfl⟩

/-- All that a comparison on an indexed column can do: it becomes a filter, bounds the key, or
bounds the data. -/
theorem add_cases {hints : List Catalog.Hint} {a a' : Access} {f : Filter} {rs : List Record}
    (h : Gives (a.add hints f) a' rs) :
    ((f.op = .ne ∨ hintAt hints f.column ≠ .primaryKey ∧ a.secondaryColumn ≠ some f.column) ∧
      rs = [f.demoted] ∧ a' = { a with filters := a.filters ++ [f] }) ∨
    (hintAt hints f.column = .primaryKey ∧ ∃ b b', f.bound? = .ok (some b) ∧
      f.keyBound b = .ok b' ∧ rs = replaced f "key" a.key b' ∧
      a' = { a with keyColumn := some f.column, key := a.key.replace b' }) ∨
    (hintAt hints f.column ≠ .primaryKey ∧ a.secondaryColumn = some f.column ∧
      ∃ b, f.bound? = .ok (some b) ∧ rs = replaced f "data" a.secondary b ∧
      a' = { a with secondary := a.secondary.replace b }) := by
  unfold add at h
  dsimp only at h
  split at h
  · next hc =>
      simp only [Bool.and_eq_true, Bool.not_eq_true', decide_eq_false_iff_not,
        decide_eq_true_eq] at hc
      exact .inl ⟨.inr hc, demote_gives h⟩
  · next hc =>
      simp only [gives_bind, gives_lift] at h
      obtain ⟨b, _, _, ⟨hb, rfl⟩, h, rfl⟩ := h
      split at h
      · exact .inl ⟨.inl (f.op_eq_ne_of_bound hb), by simpa using demote_gives h⟩
      · next b =>
          split at h
          · next hk =>
              simp only [gives_bind, gives_lift, gives_logged, gives_pure] at h
              obtain ⟨b', _, _, ⟨hb', rfl⟩, ⟨_, _, _, ⟨-, rfl⟩, ⟨rfl, rfl⟩, rfl⟩, rfl⟩ := h
              exact .inr (.inl ⟨hk, b, b', hb, hb', by simp, rfl⟩)
          · next hk =>
              have hs : a.secondaryColumn = some f.column := by
                simpa [hk] using hc
              simp only [gives_bind, gives_logged, gives_pure] at h
              obtain ⟨_, _, _, ⟨-, rfl⟩, ⟨rfl, rfl⟩, rfl⟩ := h
              exact .inr (.inr ⟨hk, hs, b, hb, by simp, rfl⟩)

/-- A record that the access admitted before and that passes the comparison is still admitted. -/
theorem admits_add {hints : List Catalog.Hint} {a a' : Access} {f : Filter} {rs : List Record}
    (h : Gives (a.add hints f) a' rs)
    (hkey : hintAt hints f.column = .primaryKey → f.column = 0) {r : Row} (hr : 0 ≤ r.value 0)
    (ha : a.admits r = true) (hf : f.holds r = true) : a'.admits r = true := by
  simp only [admits, Bool.and_eq_true] at ha ⊢
  obtain ⟨⟨hk, hs⟩, hfs⟩ := ha
  obtain ⟨-, -, rfl⟩ | ⟨hpk, b, b', hb, hb', -, rfl⟩ | ⟨-, hsc, b, hb, -, rfl⟩ := add_cases h
  · exact ⟨⟨hk, hs⟩, by simp [hfs, hf]⟩
  · refine ⟨⟨Bound.contains_replace hk ?_, hs⟩, hfs⟩
    rw [Filter.contains_keyBound hb' hr, Filter.contains_bound hb, ← hkey hpk]
    exact hf
  · refine ⟨⟨hk, ?_⟩, hfs⟩
    rw [hsc, Option.all_some] at hs ⊢
    refine Bound.contains_replace hs ?_
    rw [Filter.contains_bound hb]
    exact hf

/-- If no bound was replaced, a record that is admitted afterwards was admitted before and passes
the comparison. -/
theorem admits_of_add {hints : List Catalog.Hint} {a a' : Access} {f : Filter} {rs : List Record}
    (h : Gives (a.add hints f) a' rs)
    (hkey : hintAt hints f.column = .primaryKey → f.column = 0) (hsil : Silent rs) {r : Row}
    (hr : 0 ≤ r.value 0) (ha : a'.admits r = true) : a.admits r = true ∧ f.holds r = true := by
  simp only [admits, Bool.and_eq_true] at ha ⊢
  obtain ⟨⟨hk, hs⟩, hfs⟩ := ha
  obtain ⟨-, -, rfl⟩ | ⟨hpk, b, b', hb, hb', rfl, rfl⟩ | ⟨-, hsc, b, hb, rfl, rfl⟩ := add_cases h
  · simp only [List.all_append, List.all_cons, List.all_nil, Bool.and_true,
      Bool.and_eq_true] at hfs
    exact ⟨⟨⟨hk, hs⟩, hfs.1⟩, hfs.2⟩
  · obtain ⟨hk, hb''⟩ := Bound.contains_of_replace hsil hk
    rw [Filter.contains_keyBound hb' hr, Filter.contains_bound hb, ← hkey hpk] at hb''
    exact ⟨⟨⟨hk, hs⟩, hfs⟩, hb''⟩
  · rw [hsc, Option.all_some] at hs
    obtain ⟨hs, hb'⟩ := Bound.contains_of_replace hsil hs
    rw [Filter.contains_bound hb] at hb'
    refine ⟨⟨⟨hk, ?_⟩, hfs⟩, hb'⟩
    rw [hsc, Option.all_some]
    exact hs

/-! ### All comparisons -/

variable {hints : List Catalog.Hint}

theorem admits_foldlM {cs : List Filter} {a a' : Access} {rs : List Record}
    (h : Gives (cs.foldlM (Access.add hints) a) a' rs)
    (hkey : ∀ f ∈ cs, hintAt hints f.column = .primaryKey → f.column = 0) {r : Row}
    (hr : 0 ≤ r.value 0) (ha : a.admits r = true) (hf : ∀ f ∈ cs, f.holds r = true) :
    a'.admits r = true := by
  induction cs generalizing a rs with
  | nil =>
      obtain ⟨rfl, -⟩ := gives_pure.1 h
      exact ha
  | cons f cs ih =>
      rw [List.foldlM_cons, gives_bind] at h
      obtain ⟨a₁, rs₁, rs₂, h₁, h₂, rfl⟩ := h
      have ha₁ := admits_add h₁ (hkey f (by simp)) hr ha (hf f (by simp))
      exact ih h₂ (fun g hg => hkey g (by simp [hg])) ha₁ fun g hg => hf g (by simp [hg])

theorem admits_of_foldlM {cs : List Filter} {a a' : Access} {rs : List Record}
    (h : Gives (cs.foldlM (Access.add hints) a) a' rs)
    (hkey : ∀ f ∈ cs, hintAt hints f.column = .primaryKey → f.column = 0) (hsil : Silent rs)
    {r : Row} (hr : 0 ≤ r.value 0) (ha : a'.admits r = true) :
    a.admits r = true ∧ ∀ f ∈ cs, f.holds r = true := by
  induction cs generalizing a rs with
  | nil =>
      obtain ⟨rfl, -⟩ := gives_pure.1 h
      exact ⟨ha, by simp⟩
  | cons f cs ih =>
      rw [List.foldlM_cons, gives_bind] at h
      obtain ⟨a₁, rs₁, rs₂, h₁, h₂, rfl⟩ := h
      obtain ⟨hsil₁, hsil₂⟩ := silent_append.1 hsil
      obtain ⟨ha₁, hcs⟩ := ih h₂ (fun g hg => hkey g (by simp [hg])) hsil₂
      obtain ⟨ha, hf⟩ := admits_of_add h₁ (hkey f (by simp)) hsil₁ hr ha₁
      exact ⟨ha, List.forall_mem_cons.2 ⟨hf, hcs⟩⟩

theorem mem_candidates {fs : List Filter} {f : Filter} :
    f ∈ candidates hints fs ↔ f ∈ fs ∧ (hintAt hints f.column).isIndexed = true := by
  simp [candidates]

/-- Comparisons on indexed columns are taken in the order of their columns. -/
theorem pairwise_candidates (hints : List Catalog.Hint) (fs : List Filter) :
    (candidates hints fs).Pairwise fun f g => f.column ≤ g.column := by
  refine (List.pairwise_mergeSort ?_ ?_ _).imp fun h => of_decide_eq_true h
  · simpa using fun f g h => le_trans
  · simpa using fun f g : Filter => le_total f.column g.column

/-- Comparisons that come in the order of their columns are taken as they come. -/
theorem candidates_of_pairwise {fs : List Filter}
    (h : fs.Pairwise fun f g => f.column ≤ g.column) :
    candidates hints fs = fs.filter fun f => (hintAt hints f.column).isIndexed :=
  List.mergeSort_of_pairwise ((h.filter _).imp fun hle => by simpa using hle)

/-- The access before the comparisons on indexed columns. -/
def start (hints : List Catalog.Hint) (fs : List Filter) : Access where
  secondaryColumn := ((candidates hints fs).find? (boundsData hints)).map Filter.column
  filters := fs.filter fun f => !(hintAt hints f.column).isIndexed

theorem ofFilters_gives {fs : List Filter} {a : Access} {rs : List Record}
    (h : Gives (ofFilters hints fs) a rs) :
    ∃ a', Gives ((candidates hints fs).foldlM (Access.add hints) (start hints fs)) a' rs ∧
      a = { a' with filters := a'.filters.eraseDups } := by
  unfold ofFilters at h
  simp only [gives_bind, gives_pure] at h
  obtain ⟨a', _, _, h, ⟨rfl, rfl⟩, rfl⟩ := h
  rw [List.append_nil]
  exact ⟨a', h, rfl⟩

/-- Repeated filters can be dropped. -/
theorem admits_eraseDups (a : Access) (r : Row) :
    { a with filters := a.filters.eraseDups }.admits r = a.admits r := by
  have : a.filters.eraseDups.all (fun f => f.holds r) = a.filters.all fun f => f.holds r := by
    rw [Bool.eq_iff_iff, List.all_eq_true, List.all_eq_true]
    simp only [List.mem_eraseDups]
  simp only [admits, this]

theorem admits_start {fs : List Filter} {r : Row} :
    (start hints fs).admits r = true ↔
      ∀ f ∈ fs, (hintAt hints f.column).isIndexed = false → f.holds r = true := by
  have hkey : (start hints fs).key.contains (r.value 0) = true := rfl
  have hdata : ((start hints fs).secondaryColumn.all fun n =>
      (start hints fs).secondary.contains (r.value n)) = true :=
    Option.all_eq_true _ _ |>.2 fun _ _ => rfl
  rw [admits, hkey, hdata]
  simp only [start, Bool.true_and, List.all_eq_true, List.mem_filter, and_imp, Bool.not_eq_true']

/-- A record that passes all comparisons is admitted. -/
theorem admits_of_holds {fs : List Filter} {a : Access} {rs : List Record}
    (h : Gives (ofFilters hints fs) a rs)
    (hkey : ∀ n, hintAt hints n = .primaryKey → n = 0) {r : Row} (hr : 0 ≤ r.value 0)
    (hf : ∀ f ∈ fs, f.holds r = true) : a.admits r = true := by
  obtain ⟨a', h', rfl⟩ := ofFilters_gives h
  rw [admits_eraseDups]
  refine admits_foldlM h' (fun f _ => hkey f.column) hr ?_ ?_
  · exact admits_start.2 fun f hm _ => hf f hm
  · exact fun f hm => hf f (mem_candidates.1 hm).1

/-- If no bound was replaced by a different one, a record that is admitted passes all
comparisons. -/
theorem holds_of_admits {fs : List Filter} {a : Access} {rs : List Record}
    (h : Gives (ofFilters hints fs) a rs)
    (hkey : ∀ n, hintAt hints n = .primaryKey → n = 0) (hsil : Silent rs) {r : Row}
    (hr : 0 ≤ r.value 0) (ha : a.admits r = true) : ∀ f ∈ fs, f.holds r = true := by
  obtain ⟨a', h', rfl⟩ := ofFilters_gives h
  rw [admits_eraseDups] at ha
  obtain ⟨hstart, hcs⟩ := admits_of_foldlM h' (fun f _ => hkey f.column) hsil hr ha
  intro f hm
  cases hi : (hintAt hints f.column).isIndexed with
  | false => exact admits_start.1 hstart f hm hi
  | true => exact hcs f (mem_candidates.2 ⟨hm, hi⟩)

/-! ### Queries -/

theorem ofQuery_gives {q : Resolved} {a : Access} {rs : List Record}
    (h : Gives (ofQuery q) a rs) :
    q.tables.length = 1 ∧ q.outerJoin = false ∧
      ∃ fs, q.predicates.mapM Filter.ofComparison = .ok fs ∧ Gives (ofFilters q.hints fs) a rs := by
  unfold ofQuery at h
  dsimp only at h
  split at h
  · simp only [gives_bind, not_gives_throw, false_and, exists_false] at h
  · next hlen =>
      split at h
      · simp only [gives_bind, not_gives_throw, false_and, exists_false] at h
      · next hjoin =>
          simp only [gives_bind, gives_lift] at h
          obtain ⟨fs, _, _, ⟨hfs, rfl⟩, h, rfl⟩ := h
          exact ⟨by simpa using hlen, by simpa using hjoin, fs, hfs, h⟩

theorem holds_ofComparison {c : Comparison} {f : Filter} (h : Filter.ofComparison c = .ok f)
    (r : Row) : f.holds r = c.holds r := by
  unfold Filter.ofComparison at h
  cases hl : c.literal with
  | integer v =>
      rw [hl] at h
      cases h
      rw [Filter.holds, Comparison.holds, hl, Literal.compared_integer]
  | _ =>
      rw [hl] at h
      cases h

/-- The comparisons of a query with integers pass a record exactly if its conditions admit it. -/
theorem forall_holds_iff_admits {q : Resolved} {fs : List Filter}
    (h : q.predicates.mapM Filter.ofComparison = .ok fs) (r : Row) :
    (∀ f ∈ fs, f.holds r = true) ↔ q.admits r = true := by
  rw [mapM_eq_ok] at h
  rw [Resolved.admits]
  generalize q.predicates = cs at h
  induction h with
  | nil => simp
  | cons hc _ ih => simp only [List.forall_mem_cons, List.all_cons, Bool.and_eq_true, ih,
      holds_ofComparison hc]

end Access

end SqlPipeline.Plan
