/-
**Work that gives what it should, or fails as it may.**

`Outcome` tells what work that gives a value did.  Where work may fail, one also wants to know for
which faults.  `Ensures E P x` says both of work `x`: each value that it gives has the property
`P`, and each fault that it fails with has the property `E`.  The rules are the same in the three
monads in which work is written, so they are stated once, for work whose results are known.

Main definitions:

* `Fallible` — work whose results are known: those of two parts, one after the other, come from
  the results of the parts;
* `Ensures` — the values and the faults of work have given properties.

Main results:

* `ensures_bind`, `ensures_mapM`, `ensures_foldlM` — the rules for work after work, for the same
  work on each element of a list, and for work that passes a value along a list.
-/

import SqlPipeline.Proofs.Outcome

set_option autoImplicit false

namespace SqlPipeline

/-! ### Results -/

/-- Work of which it is known what results it can have. -/
class Fallible (m : Type → Type) [Monad m] [MonadExceptOf Fault m] where
  /-- Whether work can have the given result. -/
  Has {α : Type} (x : m α) (r : Except Fault α) : Prop
  has_pure {α : Type} {a : α} {r : Except Fault α} : Has (pure a) r → r = .ok a
  has_throw {α : Type} {e : Fault} {r : Except Fault α} : Has (throw e) r → r = .error e
  has_bind {α β : Type} {x : m α} {f : α → m β} {r : Except Fault β} : Has (x >>= f) r →
    (∃ a, Has x (.ok a) ∧ Has (f a) r) ∨ ∃ e, Has x (.error e) ∧ r = .error e

instance : Fallible (Except Fault) where
  Has x r := x = r
  has_pure h := h.symm
  has_throw h := h.symm
  has_bind {α β x f r} h := by
    cases x with
    | ok a => exact .inl ⟨a, rfl, h⟩
    | error e => exact .inr ⟨e, rfl, h.symm⟩

instance : Fallible (ExceptT Fault Journal.Logged) where
  Has x r := x.run.value = r
  has_pure h := h.symm
  has_throw h := h.symm
  has_bind {α β x f r} h := by
    rw [ExceptT.run_bind, Journal.Logged.value_bind] at h
    cases hx : x.run.value with
    | ok a =>
        rw [hx] at h
        exact .inl ⟨a, rfl, h⟩
    | error e =>
        rw [hx] at h
        exact .inr ⟨e, rfl, h.symm⟩

instance : Fallible (ExceptT Fault (StateM Plan.Routines)) where
  Has x r := ∃ s, (x.run.run s).1 = r
  has_pure := fun ⟨_, h⟩ => h.symm
  has_throw := fun ⟨_, h⟩ => h.symm
  has_bind {α β x f r} h := by
    obtain ⟨s, h⟩ := h
    rw [ExceptT.run_bind, StateT.run_bind] at h
    rcases hx : x.run.run s with ⟨e | a, t⟩
    · rw [hx] at h
      exact .inr ⟨e, ⟨s, by rw [hx]⟩, h.symm⟩
    · rw [hx] at h
      exact .inl ⟨a, ⟨s, by rw [hx]⟩, t, h⟩

/-! ### Rules -/

section

variable {m : Type → Type} [Monad m] [MonadExceptOf Fault m] [Fallible m] {α β : Type}
  {E E' : Fault → Prop} {P P' : α → Prop} {Q : β → Prop}

/-- Each value that the work gives has one property, and each fault it fails with another. -/
def Ensures (E : Fault → Prop) (P : α → Prop) (x : m α) : Prop :=
  (∀ a, Fallible.Has x (.ok a) → P a) ∧ ∀ e, Fallible.Has x (.error e) → E e

theorem Ensures.mono {x : m α} (h : Ensures E P x) (hE : ∀ e, E e → E' e)
    (hP : ∀ a, P a → P' a) : Ensures E' P' x :=
  ⟨fun a ha => hP a (h.1 a ha), fun e he => hE e (h.2 e he)⟩

theorem Ensures.imp {x : m α} (h : Ensures E P x) (hP : ∀ a, P a → P' a) : Ensures E P' x :=
  h.mono (fun _ he => he) hP

theorem ensures_pure {a : α} (h : P a) : Ensures E P (pure a : m α) := by
  refine ⟨fun b hb => ?_, fun e he => ?_⟩
  · cases Fallible.has_pure hb
    exact h
  · cases Fallible.has_pure he

theorem ensures_throw {e : Fault} (h : E e) : Ensures E P (throw e : m α) := by
  refine ⟨fun b hb => ?_, fun e he => ?_⟩
  · cases Fallible.has_throw hb
  · cases Fallible.has_throw he
    exact h

/-- Work after work, which may rely on what the first part ensures. -/
theorem ensures_bind {x : m α} {f : α → m β} (hx : Ensures E P x)
    (hf : ∀ a, P a → Ensures E Q (f a)) : Ensures E Q (x >>= f) := by
  refine ⟨fun b hb => ?_, fun e he => ?_⟩
  · rcases Fallible.has_bind hb with ⟨a, ha, hb⟩ | ⟨e, -, he⟩
    · exact (hf a (hx.1 a ha)).1 b hb
    · cases he
  · rcases Fallible.has_bind he with ⟨a, ha, he⟩ | ⟨e', he', heq⟩
    · exact (hf a (hx.1 a ha)).2 e he
    · cases heq
      exact hx.2 e he'

/-- The same work on each element of a list. -/
theorem ensures_mapM {R : α → β → Prop} {f : α → m β} {xs : List α}
    [LawfulMonad m] (h : ∀ x ∈ xs, Ensures E (R x) (f x)) :
    Ensures E (List.Forall₂ R xs) (xs.mapM f) := by
  induction xs with
  | nil =>
      rw [List.mapM_nil]
      exact ensures_pure .nil
  | cons x xs ih =>
      rw [List.mapM_cons]
      refine ensures_bind (h x List.mem_cons_self) fun y hy => ?_
      refine ensures_bind (ih fun z hz => h z (List.mem_cons_of_mem _ hz)) fun ys hys => ?_
      exact ensures_pure (.cons hy hys)

theorem ensures_forall_mapM {f : α → m β} {xs : List α} [LawfulMonad m]
    (h : ∀ x ∈ xs, Ensures E Q (f x)) : Ensures E (∀ y ∈ ·, Q y) (xs.mapM f) := by
  refine (ensures_mapM h).imp fun ys hys => ?_
  clear h
  induction hys with
  | nil => simp
  | cons hy _ ih => exact List.forall_mem_cons.2 ⟨hy, ih⟩

/-- Work that passes a value along a list.  The invariant is about the part of the list that is
done. -/
theorem ensures_foldlM {I : List α → β → Prop} {f : β → α → m β} {xs : List α} {b : β}
    (hb : I [] b)
    (hf : ∀ done x rest b, xs = done ++ x :: rest → I done b →
      Ensures E (I (done ++ [x])) (f b x)) :
    Ensures E (I xs) (xs.foldlM f b) := by
  -- for the part that is left, after any part that is done
  have key : ∀ rest done b, xs = done ++ rest → I done b →
      Ensures E (I xs) (rest.foldlM f b) := by
    intro rest
    induction rest with
    | nil =>
        intro done b hxs hI
        rw [List.append_nil] at hxs
        subst hxs
        exact ensures_pure hI
    | cons x rest ih =>
        intro done b hxs hI
        rw [List.foldlM_cons]
        refine ensures_bind (hf done x rest b hxs hI) fun b' hb' => ?_
        exact ih (done ++ [x]) b' (by simpa using hxs) hb'
  exact key xs [] b rfl hb

end

/-! ### Work without more -/

section

variable {α : Type} {E : Fault → Prop} {P : α → Prop}

theorem ensures_ok {a : α} (h : P a) : Ensures E P (Except.ok a : Except Fault α) :=
  ensures_pure h

theorem ensures_error {e : Fault} (h : E e) : Ensures E P (Except.error e : Except Fault α) :=
  ensures_throw h

theorem Ensures.and_eq {x : Except Fault α} (h : Ensures E P x) :
    Ensures E (fun a => P a ∧ x = .ok a) x :=
  ⟨fun a ha => ⟨h.1 a ha, ha⟩, h.2⟩

/-- Without regard to faults, all that is known of a value is that the work gives it. -/
theorem ensures_eq (x : Except Fault α) : Ensures (fun _ => True) (x = .ok ·) x :=
  ⟨fun _ ha => ha, fun _ _ => trivial⟩

/-- Work in another monad that is plain work. -/
theorem ensures_collecting {x : Except Fault α} (h : Ensures E P x) :
    Ensures E P (liftM x : Plan.Collecting α) :=
  ⟨fun a ⟨_, ha⟩ => h.1 a ha, fun e ⟨_, he⟩ => h.2 e he⟩

theorem ensures_attempt {x : Except Fault α} (h : Ensures E P x) :
    Ensures E P (liftM x : Journal.Attempt Fault α) :=
  ⟨fun a ha => h.1 a ha, fun e he => h.2 e he⟩

/-- A routine that is needed cannot fail. -/
theorem ensures_need {r : Plan.Routine} : Ensures E (fun _ => True) (Plan.need r) := by
  refine ⟨fun _ _ => trivial, fun e he => ?_⟩
  obtain ⟨s, hs⟩ := he
  cases hs

theorem ensures_get : Ensures E (fun _ => True) (get : Plan.Collecting Plan.Routines) := by
  refine ⟨fun _ _ => trivial, fun e he => ?_⟩
  obtain ⟨s, hs⟩ := he
  cases hs

/-- Records cannot fail. -/
theorem ensures_logged {x : Journal.Logged α} :
    Ensures E (· = x.value) (liftM x : Journal.Attempt Fault α) := by
  refine ⟨fun a ha => ?_, fun e he => ?_⟩
  · cases ha
    rfl
  · cases he

/-- Work that collects routines, from the given ones on. -/
theorem Ensures.run {x : Plan.Collecting α} (h : Ensures E P x) (s : Plan.Routines) :
    Ensures E P (x.run.run s).1 :=
  ⟨fun a ha => h.1 a ⟨s, ha⟩, fun e he => h.2 e ⟨s, he⟩⟩

/-- What is known of the values of work that collects routines, and of its faults. -/
theorem Ensures.and_gathers {x : Plan.Collecting α} {Q : α → Prop} (h : Ensures E P x)
    (hQ : ∀ s a s', Plan.Gathers x s a s' → Q a) : Ensures E (fun a => P a ∧ Q a) x := by
  refine ⟨fun a ha => ⟨h.1 a ha, ?_⟩, h.2⟩
  obtain ⟨s, hs⟩ := ha
  exact hQ s a (x.run.run s).2 (Prod.ext hs rfl)

end

end SqlPipeline
