/-
**Work that ends well.**

Resolution, planning and listing are written in three monads: plain `Except`, `Journal.Attempt`,
which keeps records beside a value or a fault, and `Plan.Collecting`, which collects routines.  A
statement about such work never opens the monad: it says that the work *gives* a value, and a
piece of work made of two parts gives a value exactly when its parts do.

Main definitions:

* `Journal.Gives` — the work gives a value and records;
* `Plan.Gathers` — the work gives a value and goes from some routines to others.

Main results:

* `Outcome.bind_eq_ok`, `Journal.gives_bind`, `Plan.gathers_bind` — two pieces of work, one after
  the other;
* `Outcome.mapM_eq_ok` — the same work on every element of a list;
* `Outcome.foldlM_induct`, `Plan.gathers_foldlM` — work that passes a value along a list keeps an
  invariant.
-/

import Mathlib.Data.List.Forall2
import SqlPipeline.Journal.Logged
import SqlPipeline.Plan.FormulaOf

set_option autoImplicit false

namespace SqlPipeline

/-! ### Values and faults -/

namespace Outcome

variable {ε α β : Type}

theorem bind_eq_ok {x : Except ε α} {f : α → Except ε β} {b : β} :
    (x >>= f) = .ok b ↔ ∃ a, x = .ok a ∧ f a = .ok b := by
  cases x <;> simp [bind, Except.bind]

theorem pure_eq_ok {a b : α} : (pure a : Except ε α) = .ok b ↔ a = b := by
  simp [pure, Except.pure]

theorem map_eq_ok {x : Except ε α} {f : α → β} {b : β} :
    (f <$> x) = .ok b ↔ ∃ a, x = .ok a ∧ f a = b := by
  cases x <;> simp [Functor.map, Except.map]

/-- The same work on every element of a list gives the values element by element. -/
theorem mapM_eq_ok {f : α → Except ε β} {xs : List α} {ys : List β} :
    xs.mapM f = .ok ys ↔ List.Forall₂ (fun x y => f x = .ok y) xs ys := by
  induction xs generalizing ys with
  | nil =>
      rw [List.mapM_nil, pure_eq_ok, List.forall₂_nil_left_iff]
      exact eq_comm
  | cons x xs ih =>
      simp only [List.mapM_cons, bind_eq_ok, pure_eq_ok, List.forall₂_cons_left_iff, ih]
      grind

/-- Each part of the one list stands in the relation to a part of the other. -/
theorem exists_of_forall₂ {R : α → β → Prop} {xs : List α} {ys : List β}
    (h : List.Forall₂ R xs ys) {x : α} (hx : x ∈ xs) : ∃ y, R x y := by
  induction h with
  | nil => cases hx
  | cons hr _ ih =>
      rcases List.mem_cons.1 hx with rfl | hx
      · exact ⟨_, hr⟩
      · exact ih hx

/-- Work that passes a value along a list, with an invariant about the part of the list that is
done. -/
theorem foldlM_induct {I : List α → β → Prop} {f : β → α → Except ε β} {xs : List α} {b b' : β}
    (h : xs.foldlM f b = .ok b') (h₀ : I [] b)
    (step : ∀ done x rest b b', xs = done ++ x :: rest → I done b → f b x = .ok b' →
      I (done ++ [x]) b') : I xs b' := by
  -- for the part that is left, after any part that is done
  have key : ∀ rest done b, xs = done ++ rest → I done b → rest.foldlM f b = .ok b' →
      I (done ++ rest) b' := by
    intro rest
    induction rest with
    | nil =>
        intro done b _ hI h
        obtain rfl := pure_eq_ok.1 h
        rwa [List.append_nil]
    | cons x rest ih =>
        intro done b hxs hI h
        rw [List.foldlM_cons, bind_eq_ok] at h
        obtain ⟨b₁, h₁, h⟩ := h
        have hxs' : xs = done ++ [x] ++ rest := by rw [hxs, List.append_assoc]; rfl
        have := ih (done ++ [x]) b₁ hxs' (step done x rest b b₁ hxs hI h₁) h
        rwa [List.append_assoc] at this
  exact key xs [] b rfl h₀ h

end Outcome

/-! ### Work with records -/

namespace Journal

variable {ε α β : Type}

/-- The work gives a value, with the records it leaves. -/
def Gives (x : Attempt ε α) (a : α) (rs : List Record) : Prop :=
  x.run = ⟨.ok a, rs⟩

theorem gives_iff {x : Attempt ε α} {a : α} {rs : List Record} :
    Gives x a rs ↔ x.run.value = .ok a ∧ x.run.records = rs := by
  unfold Gives
  cases x.run
  simp

theorem gives_pure {a b : α} {rs : List Record} :
    Gives (pure a : Attempt ε α) b rs ↔ a = b ∧ rs = [] := by
  rw [gives_iff]
  simp [eq_comm]

theorem gives_bind {x : Attempt ε α} {f : α → Attempt ε β} {b : β} {rs : List Record} :
    Gives (x >>= f) b rs ↔ ∃ a rs₁ rs₂, Gives x a rs₁ ∧ Gives (f a) b rs₂ ∧ rs = rs₁ ++ rs₂ := by
  simp only [gives_iff, ExceptT.run_bind, Logged.value_bind, Logged.records_bind]
  cases hx : x.run.value with
  | error e => simp
  | ok a =>
      constructor
      · rintro ⟨hv, hr⟩
        exact ⟨a, _, _, ⟨rfl, rfl⟩, ⟨hv, rfl⟩, hr.symm⟩
      · rintro ⟨a', rs₁, rs₂, ⟨ha, rfl⟩, ⟨hv, rfl⟩, rfl⟩
        cases ha
        exact ⟨hv, rfl⟩

theorem value_bind_eq_ok {x : Attempt ε α} {f : α → Attempt ε β} {b : β} :
    (x >>= f).run.value = .ok b ↔ ∃ a, x.run.value = .ok a ∧ (f a).run.value = .ok b := by
  rw [ExceptT.run_bind, Logged.value_bind]
  cases x.run.value <;> simp

/-- What was given is handed on. -/
theorem value_bind_of_ok {x : Attempt ε α} {f : α → Attempt ε β} {a : α}
    (h : x.run.value = .ok a) : (x >>= f).run.value = (f a).run.value := by
  rw [ExceptT.run_bind, Logged.value_bind, h]

/-- Work that fails leaves nothing to the work after it. -/
theorem value_bind_of_error {x : Attempt ε α} {f : α → Attempt ε β} {e : ε}
    (h : x.run.value = .error e) : (x >>= f).run.value = .error e := by
  rw [ExceptT.run_bind, Logged.value_bind, h]
  rfl

theorem gives_lift {x : Except ε α} {a : α} {rs : List Record} :
    Gives (liftM x : Attempt ε α) a rs ↔ x = .ok a ∧ rs = [] := by
  rw [gives_iff]
  show x = .ok a ∧ [] = rs ↔ _
  rw [eq_comm (a := rs)]

theorem gives_logged {x : Logged α} {a : α} {rs : List Record} :
    Gives (liftM x : Attempt ε α) a rs ↔ x.value = a ∧ x.records = rs := by
  rw [gives_iff]
  show (Except.ok x.value : Except ε α) = .ok a ∧ x.records ++ [] = rs ↔ _
  simp

theorem not_gives_throw {e : ε} {a : α} {rs : List Record} :
    ¬ Gives (throw e : Attempt ε α) a rs := by
  rw [gives_iff]
  rintro ⟨h, -⟩
  cases h

end Journal

/-! ### Work that collects routines -/

namespace Plan

variable {α β : Type}

/-- The work gives a value, and the routines `s` become `s'`. -/
def Gathers (x : Collecting α) (s : Routines) (a : α) (s' : Routines) : Prop :=
  x.run.run s = (.ok a, s')

theorem gathers_pure {a b : α} {s s' : Routines} :
    Gathers (pure a) s b s' ↔ a = b ∧ s' = s := by
  show ((Except.ok a : Except Fault α), s) = (.ok b, s') ↔ _
  simp [eq_comm]

theorem gathers_bind {x : Collecting α} {f : α → Collecting β} {s s' : Routines} {b : β} :
    Gathers (x >>= f) s b s' ↔ ∃ a t, Gathers x s a t ∧ Gathers (f a) t b s' := by
  unfold Gathers
  rw [ExceptT.run_bind, StateT.run_bind]
  rcases x.run.run s with ⟨e | a, t⟩
  · constructor
    · intro h
      cases h
    · rintro ⟨a, t, h, -⟩
      cases h
  · constructor
    · intro h
      exact ⟨a, t, rfl, h⟩
    · rintro ⟨a, t, h, h'⟩
      cases h
      exact h'

theorem run_bind_of_ok {x : Collecting α} {f : α → Collecting β} {s t : Routines} {a : α}
    (h : x.run.run s = (.ok a, t)) : (x >>= f).run.run s = (f a).run.run t := by
  rw [ExceptT.run_bind, StateT.run_bind, h]
  rfl

theorem run_bind_of_error {x : Collecting α} {f : α → Collecting β} {s t : Routines} {e : Fault}
    (h : x.run.run s = (.error e, t)) : (x >>= f).run.run s = (.error e, t) := by
  rw [ExceptT.run_bind, StateT.run_bind, h]
  rfl

theorem gathers_lift {x : Except Fault α} {s s' : Routines} {a : α} :
    Gathers (liftM x) s a s' ↔ x = .ok a ∧ s' = s := by
  show (x, s) = (.ok a, s') ↔ _
  simp [eq_comm]

theorem not_gathers_throw {e : Fault} {s s' : Routines} {a : α} :
    ¬ Gathers (throw e) s a s' := by
  intro h
  cases h

theorem gathers_need {r : Routine} {s s' : Routines} {u : Unit} :
    Gathers (need r) s u s' ↔ s' = s.register r := by
  show ((Except.ok () : Except Fault Unit), s.register r) = (.ok u, s') ↔ _
  simp [eq_comm]

/-- The same work on every element of a list gives the values element by element. -/
theorem gathers_mapM {f : α → Collecting β} {xs : List α} {ys : List β} {s s' : Routines}
    (h : Gathers (xs.mapM f) s ys s') :
    List.Forall₂ (fun x y => ∃ t t', Gathers (f x) t y t') xs ys := by
  induction xs generalizing ys s s' with
  | nil =>
      rw [List.mapM_nil, gathers_pure] at h
      rw [← h.1]
      exact .nil
  | cons x xs ih =>
      simp only [List.mapM_cons, gathers_bind, gathers_pure] at h
      obtain ⟨y, t, hy, ys', t', hys, rfl, -⟩ := h
      exact .cons ⟨s, t, hy⟩ (ih hys)

/-- Work that passes a value along a list, with an invariant about the part of the list that is
done. -/
theorem gathers_foldlM {I : List α → β → Routines → Prop} {f : β → α → Collecting β}
    {xs : List α} {b b' : β} {s s' : Routines} (h : Gathers (xs.foldlM f b) s b' s')
    (h₀ : I [] b s)
    (step : ∀ done x b s b' s', I done b s → Gathers (f b x) s b' s' → I (done ++ [x]) b' s') :
    I xs b' s' := by
  -- for the part that is left, after any part that is done
  have key : ∀ rest done b s, I done b s → Gathers (rest.foldlM f b) s b' s' →
      I (done ++ rest) b' s' := by
    intro rest
    induction rest with
    | nil =>
        intro done b s hI h
        obtain ⟨rfl, rfl⟩ := gathers_pure.1 h
        rwa [List.append_nil]
    | cons x rest ih =>
        intro done b s hI h
        rw [List.foldlM_cons, gathers_bind] at h
        obtain ⟨b₁, s₁, h₁, h⟩ := h
        have := ih (done ++ [x]) b₁ s₁ (step done x b s b₁ s₁ hI h₁) h
        rwa [List.append_assoc] at this
  exact key xs [] b s h₀ h

end Plan

end SqlPipeline
