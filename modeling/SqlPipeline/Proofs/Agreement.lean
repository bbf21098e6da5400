/-
**Work that comes to the same.**

Two pieces of work *agree* if both give values, which stand in a given relation, or both fail, with
faults of one code.  The messages of the faults may differ: they show names as they are written.

Main definitions:

* `Agree` — two pieces of plain work agree;
* `Plan.Collecting.Agree` — two pieces of work that collect routines agree, and collect the same.

Main results:

* `Agree.bind`, `Agree.mapM_map`, `Agree.foldlM_map` — the rules for work after work, for the same
  work on each element of a list, and for work that passes a value along a list;
* `Plan.Collecting.Agree.bind` — the rule for work that collects routines.
-/

import SqlPipeline.Proofs.Outcome

set_option autoImplicit false

namespace SqlPipeline

variable {α α' β β' : Type}

/-- Two pieces of work give values that stand in a relation, or fail with faults of one code. -/
inductive Agree (R : α → α' → Prop) : Except Fault α → Except Fault α' → Prop where
  /-- Both give a value. -/
  | ok {a : α} {a' : α'} (h : R a a') : Agree R (.ok a) (.ok a')
  /-- Both fail. -/
  | error {e e' : Fault} (h : e.code = e'.code) : Agree R (.error e) (.error e')

namespace Agree

variable {R : α → α' → Prop} {Q : β → β' → Prop}

theorem refl (x : Except Fault α) : Agree Eq x x := by
  cases x with
  | ok a => exact .ok rfl
  | error e => exact .error rfl

theorem symm {x y : Except Fault α} (h : Agree Eq x y) : Agree Eq y x := by
  cases h with
  | ok h => exact .ok h.symm
  | error h => exact .error h.symm

theorem trans {x y z : Except Fault α} (h : Agree Eq x y) (h' : Agree Eq y z) : Agree Eq x z := by
  cases h with
  | ok h =>
      cases h' with
      | ok h' => exact .ok (h.trans h')
  | error h =>
      cases h' with
      | error h' => exact .error (h.trans h')

/-! The code of a fault says only what kind of fault it is. -/

theorem shape {c c' : Fault.Shape} : Agree R (.error (.shape c)) (.error (.shape c')) :=
  .error rfl

theorem expression {c c' : Fault.Expression} :
    Agree R (.error (.expression c)) (.error (.expression c')) :=
  .error rfl

theorem unknownColumn {column column' table table' : String} :
    Agree R (.error (.unknownColumn column table)) (.error (.unknownColumn column' table')) :=
  .error rfl

theorem unknownTable {name name' : String} :
    Agree R (.error (.unknownTable name)) (.error (.unknownTable name')) :=
  .error rfl

/-- Work after work. -/
theorem bind {x : Except Fault α} {y : Except Fault α'} {f : α → Except Fault β}
    {g : α' → Except Fault β'} (h : Agree R x y) (hf : ∀ a a', R a a' → Agree Q (f a) (g a')) :
    Agree Q (x >>= f) (y >>= g) := by
  cases h with
  | ok h => exact hf _ _ h
  | error h => exact .error h

/-- Work after work that gives the same. -/
theorem bind_eq {x y : Except Fault α} {f : α → Except Fault β} {g : α → Except Fault β'}
    (h : Agree Eq x y) (hf : ∀ a, Agree Q (f a) (g a)) : Agree Q (x >>= f) (y >>= g) := by
  refine h.bind ?_
  rintro a _ rfl
  exact hf a

/-- The same work on each element of a list, whose elements may be exchanged. -/
theorem mapM_map {γ : Type} {f : γ → Except Fault α} {g : γ → γ}
    (h : ∀ x, Agree Eq (f (g x)) (f x)) (xs : List γ) :
    Agree Eq ((xs.map g).mapM f) (xs.mapM f) := by
  induction xs with
  | nil => exact .refl _
  | cons x xs ih =>
      rw [List.map_cons, List.mapM_cons, List.mapM_cons]
      exact (h x).bind_eq fun a => ih.bind_eq fun as => .refl _

/-- Work that passes a value along a list, whose elements may be exchanged. -/
theorem foldlM_map {γ : Type} {f : α → γ → Except Fault α} {g : γ → γ}
    (h : ∀ a x, Agree Eq (f a (g x)) (f a x)) (xs : List γ) (a : α) :
    Agree Eq ((xs.map g).foldlM f a) (xs.foldlM f a) := by
  induction xs generalizing a with
  | nil => exact .refl _
  | cons x xs ih =>
      rw [List.map_cons, List.foldlM_cons, List.foldlM_cons]
      exact (h a x).bind_eq fun b => ih b

/-- What agreement comes to: the same value, or faults of one code. -/
theorem cases_eq {x y : Except Fault α} (h : Agree Eq x y) :
    (∃ a, x = .ok a ∧ y = .ok a) ∨ ∃ e e', x = .error e ∧ y = .error e' ∧ e.code = e'.code := by
  cases h with
  | ok h => exact .inl ⟨_, rfl, congrArg _ h.symm⟩
  | error h => exact .inr ⟨_, _, rfl, rfl, h⟩

end Agree

/-! ### Work that collects routines -/

namespace Plan.Collecting

/-- Two pieces of work agree, from whatever routines on, and come to the same routines. -/
def Agree (x y : Collecting α) : Prop :=
  ∀ s, SqlPipeline.Agree Eq (x.run.run s).1 (y.run.run s).1 ∧ (x.run.run s).2 = (y.run.run s).2

namespace Agree

theorem refl (x : Collecting α) : Agree x x :=
  fun _ => ⟨.refl _, rfl⟩

/-- Plain work that agrees. -/
theorem lift {x y : Except Fault α} (h : SqlPipeline.Agree Eq x y) :
    Agree (liftM x : Collecting α) (liftM y) :=
  fun _ => ⟨h, rfl⟩

/-- Work after work. -/
theorem bind {x y : Collecting α} {f g : α → Collecting β} (h : Agree x y)
    (hf : ∀ a, Agree (f a) (g a)) : Agree (x >>= f) (y >>= g) := by
  intro s
  obtain ⟨hr, hs⟩ := h s
  rw [ExceptT.run_bind, ExceptT.run_bind, StateT.run_bind, StateT.run_bind]
  rcases hx : x.run.run s with ⟨r, t⟩
  rcases hy : y.run.run s with ⟨r', t'⟩
  rw [hx, hy] at hr hs
  cases hs
  cases hr with
  | ok h =>
      cases h
      exact hf _ t
  | error h => exact ⟨.error h, rfl⟩

end Agree

end Plan.Collecting

end SqlPipeline
