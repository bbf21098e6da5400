/-
**Fresh names are not in use.**

`Text.fresh` tries the numbered forms of a name one after the other and stops after as many tries
as there are names in use.  That this is enough is a counting argument: the forms differ from each
other, so not all of the first `used.length + 1` of them can be in use.

The same argument says that a search without a bound ends: `Text.Settles` is the loop that goes on
until a form is free, and a fresh name is what it ends with.  A supply of names makes such searches
one after the other, each with the results of the earlier ones in use, so that a name which was made
for one base may stand in the way of another.

Main definitions:

* `Text.Settles` — the search as a loop without a bound, and the name that it ends with;
* `Text.Allocates` — the name that a base gets, for given names in use.

Main results:

* `Text.numbered_inj` — the numbered forms of a name differ from each other;
* `Text.fresh_not_mem` — **a fresh name is not in use**;
* `Text.settles_iff` — **the search always ends**, with the fresh name;
* `Text.allocates_fresh` — a fresh name is the first free form of its base;
* `Plan.NameSupply.fresh_names` — **a supply never gives a name twice**, whatever the bases are.
-/

import Mathlib
import SqlPipeline.Plan.Assembly

set_option autoImplicit false

namespace SqlPipeline

namespace Text

/-! ### Numbered forms -/

theorem numbered_of_two_le (base : String) {n : Nat} (h : 2 ≤ n) :
    numbered base n = base ++ "_" ++ toString n := by
  rw [numbered, if_neg (by omega)]

theorem base_ne_numbered (base : String) {n : Nat} (h : 2 ≤ n) : base ≠ numbered base n := by
  rw [numbered_of_two_le base h]
  intro he
  have hl := congrArg String.length he
  simp only [String.length_append] at hl
  have : "_".length = 1 := rfl
  omega

/-- The numbered forms of a name differ from each other. -/
theorem numbered_inj (base : String) {m n : Nat} (hm : 1 ≤ m) (hn : 1 ≤ n)
    (h : numbered base m = numbered base n) : m = n := by
  rcases Nat.lt_or_ge m 2 with hm2 | hm2 <;> rcases Nat.lt_or_ge n 2 with hn2 | hn2
  · omega
  · obtain rfl : m = 1 := by omega
    exact absurd h (base_ne_numbered base hn2)
  · obtain rfl : n = 1 := by omega
    exact absurd h.symm (base_ne_numbered base hm2)
  · rw [numbered_of_two_le base hm2, numbered_of_two_le base hn2] at h
    exact Nat.repr_injective ((String.append_right_inj _).1 h)

/-! ### The first form that is not in use -/

/-- If even the form that was tried last is in use, so are all forms that were tried. -/
theorem mem_of_freshFrom_mem {used : List String} {base : String} {fuel n : Nat}
    (h : freshFrom used base fuel n ∈ used) {k : Nat} (hk : k ≤ fuel) :
    numbered base (n + k) ∈ used := by
  induction fuel generalizing n k with
  | zero =>
      obtain rfl : k = 0 := by omega
      exact h
  | succ fuel ih =>
      rw [freshFrom] at h
      split at h
      · next hc =>
          cases k with
          | zero => simpa using hc
          | succ k =>
              have := ih h (k := k) (by omega)
              rwa [Nat.add_right_comm] at this
      · next hc => exact absurd h (by simpa using hc)

/-- **A fresh name is not in use.** -/
theorem fresh_not_mem (used : List String) (base : String) : fresh used base ∉ used := by
  intro h
  -- the forms from the first to the `used.length + 1`-st, all in use and all different
  let forms := (List.range (used.length + 1)).map fun k => numbered base (1 + k)
  have hsub : forms ⊆ used := by
    intro x hx
    obtain ⟨k, hk, rfl⟩ := List.mem_map.1 hx
    exact mem_of_freshFrom_mem h (by have := List.mem_range.1 hk; omega)
  have hnodup : forms.Nodup := by
    refine List.Nodup.map_on ?_ List.nodup_range
    intro i _ j _ hij
    have := numbered_inj base (by omega) (by omega) hij
    omega
  have hle : forms.length ≤ used.length := hnodup.length_le_of_subset hsub
  simp only [forms, List.length_map, List.length_range] at hle
  omega

/-! ### The search as a loop -/

/-- The search for a name that is not in use, without a bound: `name` is tried and, where it is in
use, the base with the number `n` comes next.  The search ends with `result`. -/
inductive Settles (used : List String) (base : String) : String → Nat → String → Prop where
  /-- The name is free. -/
  | free {name : String} {n : Nat} (h : name ∉ used) : Settles used base name n name
  /-- The name is in use, and the next form is tried. -/
  | next {name result : String} {n : Nat} (h : name ∈ used)
      (rest : Settles used base (base ++ "_" ++ toString n) (n + 1) result) :
      Settles used base name n result

/-- The search can end in one way only. -/
theorem Settles.unique {used : List String} {base name result result' : String} {n : Nat}
    (h : Settles used base name n result) (h' : Settles used base name n result') :
    result = result' := by
  induction h with
  | free hfree =>
      cases h' with
      | free => rfl
      | next hused => exact absurd hused hfree
  | next hused _ ih =>
      cases h' with
      | free hfree => exact absurd hused hfree
      | next _ rest => exact ih rest

/-- From the `n`-th form on, the search without a bound ends as the bounded one does, if this one
has found a name. -/
theorem settles_freshFrom {used : List String} {base : String} {fuel n : Nat} (hn : 1 ≤ n)
    (h : freshFrom used base fuel n ∉ used) :
    Settles used base (numbered base n) (n + 1) (freshFrom used base fuel n) := by
  induction fuel generalizing n with
  | zero => exact .free h
  | succ fuel ih =>
      rw [freshFrom] at h ⊢
      split at h
      · next hused =>
          rw [if_pos hused]
          have hrest := ih (n := n + 1) (by omega) h
          rw [numbered_of_two_le base (by omega)] at hrest
          exact .next (by simpa using hused) hrest
      · next hfree =>
          rw [if_neg hfree]
          exact .free h

/-- **The search for a name that is not in use always ends**, with the fresh name. -/
theorem settles_iff {used : List String} {base name : String} :
    Settles used base base 2 name ↔ name = fresh used base := by
  have hfresh : Settles used base base 2 (fresh used base) :=
    settles_freshFrom (Nat.le_refl 1) (fresh_not_mem used base)
  constructor
  · intro h
    exact h.unique hfresh
  · rintro rfl
    exact hfresh

/-! ### The form of a fresh name -/

/-- The search stops at the first form that is free, or at the last one that it tries. -/
theorem freshFrom_eq (used : List String) (base : String) (fuel n : Nat) :
    ∃ k ≤ fuel, freshFrom used base fuel n = numbered base (n + k) ∧
      ∀ j < k, numbered base (n + j) ∈ used := by
  induction fuel generalizing n with
  | zero => exact ⟨0, Nat.le_refl 0, rfl, by omega⟩
  | succ fuel ih =>
      rw [freshFrom]
      split
      · next hused =>
          obtain ⟨k, hk, heq, hbefore⟩ := ih (n + 1)
          refine ⟨k + 1, by omega, by rw [heq, Nat.add_right_comm, Nat.add_assoc], fun j hj => ?_⟩
          cases j with
          | zero => simpa using hused
          | succ j =>
              have := hbefore j (by omega)
              rwa [Nat.add_right_comm] at this
      · exact ⟨0, by omega, rfl, by omega⟩

/-- The name that a base gets, for given names in use: the base if it is free, and otherwise the
base with the first number from two on that makes it free. -/
structure Allocates (used : List String) (base name : String) : Prop where
  /-- The search for a name ends, with this name and no other. -/
  ends : ∀ result, Settles used base base 2 result ↔ result = name
  /-- The name is free. -/
  free : name ∉ used
  /-- All forms before it are in use, and there are no more of them than names in use. -/
  form : name = base ∨ base ∈ used ∧ ∃ n, 2 ≤ n ∧ name = base ++ "_" ++ toString n ∧
    (∀ k, 2 ≤ k → k < n → base ++ "_" ++ toString k ∈ used) ∧ n ≤ used.length + 1

/-- **A fresh name is the first free form of its base.** -/
theorem allocates_fresh (used : List String) (base : String) :
    Allocates used base (fresh used base) where
  ends _ := settles_iff
  free := fresh_not_mem used base
  form := by
    obtain ⟨k, hk, heq, hbefore⟩ := freshFrom_eq used base used.length 1
    cases k with
    | zero => exact .inl heq
    | succ k =>
        refine .inr ⟨hbefore 0 (by omega), 1 + (k + 1), by omega, ?_, fun j hj hjk => ?_, by omega⟩
        · rw [fresh, heq, numbered_of_two_le base (by omega)]
        · have hused := hbefore (j - 1) (by omega)
          rwa [show 1 + (j - 1) = j by omega, numbered_of_two_le base hj] at hused

end Text

/-! ### The supply of variable names -/

namespace Plan.NameSupply

theorem fresh_not_mem_used (n : NameSupply) (base : String) : (n.fresh base).1 ∉ n.used :=
  Text.fresh_not_mem n.used base

theorem used_fresh (n : NameSupply) (base : String) :
    (n.fresh base).2.used = (n.fresh base).1 :: n.used := rfl

theorem freshAll_cons (s : NameSupply) (base : String) (bases : List String) :
    s.freshAll (base :: bases) = (s.fresh base).1 :: (s.fresh base).2.freshAll bases := rfl

theorem length_freshAll (s : NameSupply) (bases : List String) :
    (s.freshAll bases).length = bases.length := by
  induction bases generalizing s with
  | nil => rfl
  | cons base bases ih => rw [freshAll_cons, List.length_cons, ih, List.length_cons]

theorem not_mem_used_of_mem_freshAll {s : NameSupply} {bases : List String} {name : String}
    (h : name ∈ s.freshAll bases) : name ∉ s.used := by
  induction bases generalizing s with
  | nil => cases h
  | cons base bases ih =>
      rw [freshAll_cons, List.mem_cons] at h
      rcases h with rfl | h
      · exact s.fresh_not_mem_used base
      · have hused := ih h
        rw [used_fresh, List.mem_cons, not_or] at hused
        exact hused.2

theorem nodup_freshAll (s : NameSupply) (bases : List String) : (s.freshAll bases).Nodup := by
  induction bases generalizing s with
  | nil => exact List.nodup_nil
  | cons base bases ih =>
      rw [freshAll_cons, List.nodup_cons]
      refine ⟨fun h => not_mem_used_of_mem_freshAll h ?_, ih _⟩
      rw [used_fresh]
      exact List.mem_cons_self

/-- Each base gets its name while the names before it are in use. -/
theorem allocates_freshAll {s : NameSupply} {bases : List String} {i : Nat} {base name : String}
    (hbase : bases[i]? = some base) (hname : (s.freshAll bases)[i]? = some name) :
    Text.Allocates (((s.freshAll bases).take i).reverse ++ s.used) base name := by
  induction bases generalizing s i with
  | nil => simp at hbase
  | cons b bases ih =>
      rw [freshAll_cons] at hname ⊢
      cases i with
      | zero =>
          obtain rfl : b = base := by simpa using hbase
          obtain rfl : (s.fresh b).1 = name := by simpa using hname
          exact Text.allocates_fresh s.used b
      | succ i =>
          rw [List.getElem?_cons_succ] at hbase hname
          have hrest := ih hbase hname
          rw [used_fresh] at hrest
          rw [List.take_succ_cons, List.reverse_cons, List.append_assoc]
          exact hrest

/-- **A supply never gives a name twice**, whatever the bases are, nor one of the names that the
generated procedures have for themselves.  The search for each name ends, with the first form of its
base that neither the names before it nor the fixed names have taken. -/
theorem fresh_names (bases : List String) :
    let names := ({} : NameSupply).freshAll bases
    names.length = bases.length ∧ names.Nodup ∧ (∀ name ∈ names, name ∉ fixedNames) ∧
    ∀ i base name, bases[i]? = some base → names[i]? = some name →
      Text.Allocates ((names.take i).reverse ++ fixedNames) base name :=
  ⟨length_freshAll {} bases, nodup_freshAll {} bases, fun _ => not_mem_used_of_mem_freshAll,
    fun _ _ _ => allocates_freshAll⟩

/-- Bases that are fixed names, come again, or look like names that were made. -/
def intricateBases : List String :=
  ["x_3", "it", "x", "x", "x_2", "x", "it_2"]

theorem fresh_names_intricateBases :
    ({} : NameSupply).freshAll intricateBases
      = ["x_3", "it_2", "x", "x_2", "x_2_2", "x_4", "it_2_2"] ∧
    "it_2" ∉ fixedNames ∧
    Text.Allocates (["x_2_2", "x_2", "x", "it_2", "x_3"] ++ fixedNames) "x" "x_4" := by
  have hnames : ({} : NameSupply).freshAll intricateBases
      = ["x_3", "it_2", "x", "x_2", "x_2_2", "x_4", "it_2_2"] := by decide +kernel
  have hall := fresh_names intricateBases
  rw [hnames] at hall
  exact ⟨hnames, hall.2.2.1 "it_2" (by decide), hall.2.2.2 5 "x" "x_4" rfl rfl⟩

end Plan.NameSupply

end SqlPipeline
