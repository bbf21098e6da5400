/-
Values with the records of the work that gave them.

* `Journal.Logged` — a value and records, as a monad: the records of two pieces of work follow
  each other;
* `Journal.note` — one record;
* `Journal.Attempt` — work that may fail, and that keeps its records when it does.

A value never depends on the records, and the records never depend on a threshold: which of them
are written is decided afterwards, by `Journal.lines`.
-/

import SqlPipeline.Journal.Record

set_option autoImplicit false

namespace SqlPipeline.Journal

/-- A value and the records of the work that gave it. -/
structure Logged (α : Type) where
  value : α
  records : List Record := []
  deriving Repr, Inhabited

namespace Logged

variable {α β : Type}

instance : Monad Logged where
  pure a := ⟨a, []⟩
  bind x f := ⟨(f x.value).value, x.records ++ (f x.value).records⟩

@[simp] theorem value_pure (a : α) : (pure a : Logged α).value = a := rfl

@[simp] theorem records_pure (a : α) : (pure a : Logged α).records = [] := rfl

@[simp] theorem value_bind (x : Logged α) (f : α → Logged β) :
    (x >>= f).value = (f x.value).value := rfl

@[simp] theorem records_bind (x : Logged α) (f : α → Logged β) :
    (x >>= f).records = x.records ++ (f x.value).records := rfl

end Logged

/-- A record by itself. -/
def note (r : Record) : Logged Unit :=
  ⟨(), [r]⟩

/-- Work that may fail for a cause of type `ε`, with its records. -/
abbrev Attempt (ε α : Type) : Type :=
  ExceptT ε Logged α

end SqlPipeline.Journal
