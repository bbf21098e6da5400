/-
**What a formula needs.**

A formula is found node by node, and on the way its functions are registered as routines.  The
routines that are left are known exactly: those before, and then each function of the formula, from
the outside in and from left to right, unless it was there.  The formula has the columns of its
expression, and a fraction exactly if the expression has one, which are two ways to say the type of
a value.

Main definitions:

* `Plan.Routines.registerAll` — routines with several more, one after the other;
* `Plan.Formula.needs` — the routines that a formula needs.

Main results:

* `Plan.Routines.nodup_registerAll` — no two routines have one name;
* `Plan.Routines.mem_registerAll` — if no two different routines compete for a name, all are there;
* `Plan.formulaOf_registers` — **finding a formula registers what the formula needs**.
-/

import SqlPipeline.Proofs.Groups

set_option autoImplicit false

namespace SqlPipeline

open Layout Query Outcome

namespace Plan

/-! ### Several routines -/

namespace Routines

/-- The routines with several more, one after the other, each unless there is one of its name. -/
def registerAll (s : Routines) (rs : List Routine) : Routines :=
  rs.foldl register s

theorem registerAll_append (s : Routines) (rs rs' : List Routine) :
    s.registerAll (rs ++ rs') = (s.registerAll rs).registerAll rs' :=
  List.foldl_append

theorem contains_eq_true {s : Routines} {name : String} :
    s.contains name = true ↔ name ∈ s.names := by
  simp [contains, names]

/-- A routine is added at the end, unless there is one of its name. -/
theorem register_cases (s : Routines) (r : Routine) :
    (r.name ∈ s.names ∧ s.register r = s) ∨
      (r.name ∉ s.names ∧ (s.register r).list = s.list ++ [r]) := by
  unfold register
  split
  · next h => exact .inl ⟨contains_eq_true.1 h, rfl⟩
  · next h => exact .inr ⟨fun hmem => h (contains_eq_true.2 hmem), rfl⟩

section

variable {s : Routines} {r : Routine} {rs : List Routine}

theorem prefix_registerAll (s : Routines) (rs : List Routine) :
    s.list <+: (s.registerAll rs).list := by
  induction rs generalizing s with
  | nil => exact List.prefix_rfl
  | cons r rs ih =>
      refine List.IsPrefix.trans ?_ (ih (s.register r))
      rcases register_cases s r with ⟨-, h⟩ | ⟨-, h⟩
      · rw [h]
      · rw [h]
        exact List.prefix_append _ _

theorem nodup_register (h : s.names.Nodup) (r : Routine) : (s.register r).names.Nodup := by
  rcases register_cases s r with ⟨-, hr⟩ | ⟨hfree, hr⟩
  · rwa [hr]
  · rw [names, hr, List.map_append, List.nodup_append']
    refine ⟨h, List.nodup_singleton _, ?_⟩
    simpa [names] using hfree

/-- No two routines have one name. -/
theorem nodup_registerAll (h : s.names.Nodup) (rs : List Routine) :
    (s.registerAll rs).names.Nodup := by
  induction rs generalizing s with
  | nil => exact h
  | cons r rs ih => exact ih (nodup_register h r)

theorem mem_of_mem_registerAll (h : r ∈ (s.registerAll rs).list) : r ∈ s.list ∨ r ∈ rs := by
  induction rs generalizing s with
  | nil => exact .inl h
  | cons x rs ih =>
      rcases ih h with hs | hrs
      · rcases register_cases s x with ⟨-, hx⟩ | ⟨-, hx⟩
        · rw [hx] at hs
          exact .inl hs
        · rw [hx, List.mem_append, List.mem_singleton] at hs
          rcases hs with hs | rfl
          · exact .inl hs
          · exact .inr List.mem_cons_self
      · exact .inr (List.mem_cons_of_mem _ hrs)

/-- A routine has its name afterwards, if not its place. -/
theorem name_mem_registerAll (h : r ∈ rs) : r.name ∈ (s.registerAll rs).names := by
  induction rs generalizing s with
  | nil => cases h
  | cons x rs ih =>
      rcases List.mem_cons.1 h with rfl | h
      · have hname : r.name ∈ (s.register r).names := by
          rcases register_cases s r with ⟨hmem, hr⟩ | ⟨-, hr⟩
          · rwa [hr]
          · simp [names, hr]
        exact ((prefix_registerAll (s.register r) rs).map Routine.name).subset hname
      · exact ih h

/-- If no two different routines compete for a name, all routines are there. -/
theorem mem_registerAll (h : ∀ x ∈ s.list ++ rs, ∀ y ∈ s.list ++ rs, x.name = y.name → x = y) :
    r ∈ (s.registerAll rs).list ↔ r ∈ s.list ∨ r ∈ rs := by
  refine ⟨mem_of_mem_registerAll, fun hr => ?_⟩
  rcases hr with hr | hr
  · exact (prefix_registerAll s rs).subset hr
  · -- the routine that has its name is the same
    obtain ⟨x, hx, hname⟩ := List.mem_map.1 (name_mem_registerAll (s := s) hr)
    have hx' := List.mem_append.2 (mem_of_mem_registerAll hx)
    rwa [h x hx' r (List.mem_append_right _ hr) hname] at hx

end

end Routines

/-! ### Formulas -/

/-- The routines that a formula needs. -/
def Formula.needs (f : Formula) : List Routine :=
  f.functions.map .math

end Plan

/-- The functions of an expression that the generated program knows, from the outside in and from
left to right. -/
def Query.Scalar.functions : Scalar → List Plan.MathFunction
  | .column _ => []
  | .literal _ => []
  | .apply name arg => (Plan.MathFunction.ofName? name).toList ++ arg.functions
  | .binary _ l r => l.functions ++ r.functions

namespace Plan

/-- The formula of an expression registers its functions, and says the same of columns, functions
and fractions as the expression. -/
theorem formulaNode_registers {e : Scalar} {f : Formula} {s s' : Routines}
    (h : Gathers (formulaNode e) s f s') :
    s' = s.registerAll f.needs ∧ f.occurrences = e.occurrences ∧ f.functions = e.functions ∧
      f.isFloat = e.isFloat := by
  induction e generalizing f s s' with
  | column n =>
      obtain ⟨rfl, rfl⟩ := gathers_pure.1 h
      exact ⟨rfl, rfl, rfl, rfl⟩
  | literal l =>
      cases l with
      | text t => exact absurd h not_gathers_throw
      | _ =>
          obtain ⟨rfl, rfl⟩ := gathers_pure.1 h
          exact ⟨rfl, rfl, rfl, rfl⟩
  | apply name arg ih =>
      unfold formulaNode at h
      cases hf : MathFunction.ofName? name with
      | none =>
          rw [hf] at h
          exact absurd h not_gathers_throw
      | some g =>
          simp only [hf, gathers_bind, gathers_need, gathers_pure] at h
          obtain ⟨_, _, rfl, a, _, ha, rfl, rfl⟩ := h
          obtain ⟨rfl, hcolumns, hfunctions, -⟩ := ih ha
          refine ⟨rfl, hcolumns, ?_, rfl⟩
          rw [Formula.functions, hfunctions, Scalar.functions, hf]
          rfl
  | binary op l r ihl ihr =>
      unfold formulaNode at h
      cases ho : FormulaOp.ofArith? op with
      | none =>
          rw [ho] at h
          exact absurd h not_gathers_throw
      | some o =>
          simp only [ho, gathers_bind, gathers_pure] at h
          obtain ⟨a, t, ha, b, _, hb, rfl, rfl⟩ := h
          obtain ⟨rfl, hcl, hfl, hl⟩ := ihl ha
          obtain ⟨rfl, hcr, hfr, hr⟩ := ihr hb
          refine ⟨?_, ?_, ?_, ?_⟩
          · rw [← Routines.registerAll_append, Formula.needs, Formula.needs, ← List.map_append]
            rfl
          · rw [Formula.occurrences, hcl, hcr, Scalar.occurrences]
          · rw [Formula.functions, hfl, hfr, Scalar.functions]
          · rw [Formula.isFloat, hl, hr, Scalar.isFloat]

/-- **Finding a formula registers what the formula needs.**  It has the columns and the functions of
its expression, one column at most, and a fraction exactly if the expression has one. -/
theorem formulaOf_registers {e : Scalar} {f : Formula} {s s' : Routines}
    (h : Gathers (formulaOf e) s f s') :
    s' = s.registerAll f.needs ∧ f.columns = e.columns ∧ f.functions = e.functions ∧
      f.isFloat = e.isFloat ∧ f.columns.length ≤ 1 := by
  unfold formulaOf at h
  simp only [gathers_bind] at h
  obtain ⟨f', t, hnode, h⟩ := h
  split at h
  · obtain ⟨_, _, hthrow, -⟩ := gathers_bind.1 h
    exact absurd hthrow not_gathers_throw
  · next hlen =>
      obtain ⟨rfl, rfl⟩ := gathers_pure.1 h
      obtain ⟨hs, hcolumns, hfunctions, hfloat⟩ := formulaNode_registers hnode
      refine ⟨hs, ?_, hfunctions, hfloat, by omega⟩
      rw [Formula.columns, hcolumns, Scalar.columns]

end Plan

end SqlPipeline
