/-
**Which expressions have formulas.**

A formula is found node by node.  On the way a text, an operator or a function that the generated
program does not have stops the work, functions are registered as routines, also when the work stops
later, and in the end the columns are counted.  Here an expression is seen as the list of its nodes,
from the outside in and from left to right, and what becomes of it is read off that list: the first
node that stops the work, and the functions before it.

Main definitions:

* `Query.Scalar.walk` — the nodes of an expression, in the order in which they are met;
* `Query.Scalar.Offends` — a node stops the work, with the code of a fault;
* `Query.Scalar.Translatable` — an expression that has a formula;
* `Plan.Image` — a formula is the image of an expression, node by node;
* `Plan.Translation` — all that can become of an expression.

Main results:

* `Plan.Routines.addsFunctions_registerAll` — registering functions adds each one that is new, once;
* `Plan.translated_formulaNode` — the run over the nodes of an expression;
* `Plan.formulaOf_translation` — **an expression has a formula exactly if it is translatable**, and
  what becomes of it in either case.
-/

import SqlPipeline.Proofs.RoutineNeeds

set_option autoImplicit false

namespace SqlPipeline

open Query Outcome

/-! ### Functions and operators -/

namespace Plan

/-- The names of the functions that the generated program has. -/
def functionNames : List (String × MathFunction) :=
  [("floor", .floor), ("ceil", .ceil), ("ceiling", .ceil), ("abs", .abs), ("round", .round)]

/-- The function that has a name, whatever the case of its letters. -/
def MathFunction.named? (name : String) : Option MathFunction :=
  functionNames.lookup (Text.lower name)

theorem MathFunction.ofName?_eq_named? (name : String) : ofName? name = named? name := by
  unfold ofName? named?
  split
  case h_6 h₁ h₂ h₃ h₄ h₅ =>
    have hnone : functionNames.lookup (Text.lower name) = none := by
      simpa [functionNames, List.lookup_eq_none_iff] using ⟨h₁, h₂, h₃, h₄, h₅⟩
    exact hnone.symm
  all_goals
    next h =>
      rw [h]
      rfl

/-- An operator of the generated program is spelled like the one that it computes. -/
theorem FormulaOp.ofArith?_eq_some {op : ArithOp} {o : FormulaOp} :
    ofArith? op = some o ↔ o.symbol = op.symbol := by
  cases op <;> cases o <;> decide

theorem FormulaOp.ofArith?_eq_none {op : ArithOp} : ofArith? op = none ↔ op = .mod := by
  cases op <;> decide

end Plan

/-! ### The nodes of an expression -/

namespace Query.Scalar

/-- The nodes of an expression, each with what is under it, from the outside in and from left to
right. -/
def walk : Scalar → List Scalar
  | column n => [column n]
  | literal l => [literal l]
  | apply name arg => apply name arg :: arg.walk
  | binary op l r => binary op l r :: (l.walk ++ r.walk)

/-- The function that a node calls, if the generated program has it. -/
def function? : Scalar → Option Plan.MathFunction
  | apply name _ => Plan.MathFunction.named? name
  | _ => none

/-- A node that the generated program cannot compute, with the code of the fault that says so. -/
inductive Offends : Scalar → String → Prop
  | text (t : String) : Offends (.literal (.text t)) "EMBEDDB_TYPE_ERROR"
  | modulo (l r : Scalar) : Offends (.binary .mod l r) "EMBEDDB_UNSUPPORTED_EXPRESSION"
  | function {name : String} (arg : Scalar) (unknown : Plan.MathFunction.named? name = none) :
      Offends (.apply name arg) "EMBEDDB_UNSUPPORTED_EXPRESSION"

/-- A node that the generated program can compute. -/
def Fits (e : Scalar) : Prop :=
  ∀ code, ¬ e.Offends code

theorem fits_column (n : Nat) : (column n).Fits := by
  intro code h
  cases h

theorem fits_apply {name : String} {f : Plan.MathFunction}
    (h : Plan.MathFunction.named? name = some f) (arg : Scalar) : (apply name arg).Fits := by
  rintro code ⟨⟩
  next hunknown =>
    rw [h] at hunknown
    cases hunknown

theorem fits_binary {op : ArithOp} (h : op ≠ .mod) (l r : Scalar) : (binary op l r).Fits := by
  rintro code ⟨⟩
  exact h rfl

theorem mem_walk_column {e : Scalar} {n : Nat} : column n ∈ e.walk ↔ n ∈ e.occurrences := by
  induction e with
  | column m => simp [walk, occurrences]
  | literal l => simp [walk, occurrences]
  | apply name arg ih => simp [walk, occurrences, ih]
  | binary op l r ihl ihr => simp [walk, occurrences, ihl, ihr]

/-- An expression that the generated program can compute: it has no text and no modulo operator,
only functions that the generated program has, and one column at most. -/
structure Translatable (e : Scalar) : Prop where
  no_text : ∀ t, literal (.text t) ∉ e.walk
  no_modulo : ∀ l r, binary .mod l r ∉ e.walk
  functions : ∀ name arg, apply name arg ∈ e.walk → ∃ f, Plan.MathFunction.named? name = some f
  one_column : ∀ m n, column m ∈ e.walk → column n ∈ e.walk → m = n

theorem Translatable.fits {e : Scalar} (h : e.Translatable) : ∀ x ∈ e.walk, x.Fits := by
  rintro x hx code (t | ⟨l, r⟩ | ⟨arg, hunknown⟩)
  · exact h.no_text t hx
  · exact h.no_modulo l r hx
  · obtain ⟨f, hf⟩ := h.functions _ arg hx
    rw [hf] at hunknown
    cases hunknown

theorem translatable_of_fits {e : Scalar} (hfits : ∀ x ∈ e.walk, x.Fits)
    (hcolumns : ∀ m n, column m ∈ e.walk → column n ∈ e.walk → m = n) : e.Translatable := by
  refine ⟨fun t ht => hfits _ ht _ (.text t), fun l r hlr => hfits _ hlr _ (.modulo l r), ?_,
    hcolumns⟩
  intro name arg hmem
  cases hname : Plan.MathFunction.named? name with
  | some f => exact ⟨f, rfl⟩
  | none => exact absurd (.function arg hname) (hfits _ hmem _)

end Query.Scalar

namespace Plan

/-! ### Routines that are added -/

namespace Routines

/-- The routines `s'` are those of `s` and then the given functions, each where it comes first and
unless there is a routine of its name. -/
def AddsFunctions (s : Routines) (fs : List MathFunction) (s' : Routines) : Prop :=
  s'.list = s.list ++ (fs.eraseDups.filter fun f => f.routineName ∉ s.names).map .math

theorem mem_names_registerAll {s : Routines} {fs : List MathFunction} {f : MathFunction} :
    f.routineName ∈ (s.registerAll (fs.map .math)).names ↔ f.routineName ∈ s.names ∨ f ∈ fs := by
  constructor
  · intro h
    obtain ⟨r, hr, hname⟩ := List.mem_map.1 h
    rcases mem_of_mem_registerAll hr with hr | hr
    · exact .inl (hname ▸ List.mem_map_of_mem hr)
    · obtain ⟨g, hg, rfl⟩ := List.mem_map.1 hr
      exact .inr (routineName_inj hname ▸ hg)
  · rintro (h | h)
    · exact ((prefix_registerAll s _).map Routine.name).subset h
    · exact name_mem_registerAll (r := .math f) (List.mem_map_of_mem h)

theorem eraseDups_concat (fs : List MathFunction) (f : MathFunction) :
    (fs ++ [f]).eraseDups = fs.eraseDups ++ if f ∈ fs then [] else [f] := by
  rw [List.eraseDups_append, List.cons_removeAll, List.nil_removeAll]
  split <;> simp_all [List.eraseDups_cons]

/-- **Registering functions adds each one that is new, once.** -/
theorem addsFunctions_registerAll (s : Routines) (fs : List MathFunction) :
    s.AddsFunctions fs (s.registerAll (fs.map .math)) := by
  unfold AddsFunctions
  induction fs using List.reverseRecOn with
  | nil => simp [registerAll]
  | append_singleton fs f ih =>
      have hstep : s.registerAll ((fs ++ [f]).map .math)
          = (s.registerAll (fs.map .math)).register (.math f) := by
        rw [List.map_append, registerAll_append]
        rfl
      rw [hstep, eraseDups_concat]
      rcases register_cases (s.registerAll (fs.map .math)) (.math f) with ⟨hmem, hr⟩ | ⟨hnew, hr⟩
      · -- the name is taken by an earlier routine, or by the function itself
        rw [hr, ih]
        rcases mem_names_registerAll.1 hmem with hs | hfs
        · by_cases hfs : f ∈ fs <;> simp [hfs, hs]
        · simp [hfs]
      · obtain ⟨hs, hfs⟩ := not_or.1 (mt mem_names_registerAll.2 hnew)
        rw [hr, ih]
        simp [hs, hfs]

end Routines

/-! ### Formulas -/

/-- A formula is the image of an expression, node by node: with the same columns and numbers, and
with functions and operators that have the names and the spellings of those of the expression. -/
inductive Image : Scalar → Formula → Prop
  | column (n : Nat) : Image (.column n) (.column n)
  | integer (v : Int) : Image (.literal (.integer v)) (.integer v)
  | decimal (v : Binary64) : Image (.literal (.decimal v)) (.decimal v)
  | apply {name : String} {f : MathFunction} {arg : Scalar} {a : Formula}
      (named : MathFunction.named? name = some f) (image : Image arg a) :
      Image (.apply name arg) (.apply f a)
  | binary {op : ArithOp} {o : FormulaOp} {l r : Scalar} {a b : Formula}
      (symbol_eq : o.symbol = op.symbol) (left : Image l a) (right : Image r b) :
      Image (.binary op l r) (.binary o a b)

/-- The functions that nodes call, in order. -/
def called (nodes : List Scalar) : List MathFunction :=
  nodes.filterMap Scalar.function?

/-- What becomes of an expression node by node: its image, if all nodes can be computed, and
otherwise the fault of the first one that cannot.  The functions up to there are registered. -/
inductive Translated (e : Scalar) (s : Routines) : Except Fault Formula × Routines → Prop
  | image {f : Formula} (fits : ∀ x ∈ e.walk, x.Fits) (image : Image e f) :
      Translated e s (.ok f, s.registerAll ((called e.walk).map .math))
  | offence {err : Fault} {before after : List Scalar} {node : Scalar}
      (walk_eq : e.walk = before ++ node :: after) (fits : ∀ x ∈ before, x.Fits)
      (offends : node.Offends err.code) :
      Translated e s (.error err, s.registerAll ((called before).map .math))

theorem registerAll_called_apply {name : String} {f : MathFunction}
    (hf : MathFunction.named? name = some f) (s : Routines) (arg : Scalar) (nodes : List Scalar) :
    s.registerAll ((called (.apply name arg :: nodes)).map .math)
      = (s.register (.math f)).registerAll ((called nodes).map .math) := by
  have hcalled : called (.apply name arg :: nodes) = f :: called nodes := by
    simp [called, Scalar.function?, hf]
  rw [hcalled]
  rfl

theorem registerAll_called_append (s : Routines) (xs ys : List Scalar) :
    s.registerAll ((called (xs ++ ys)).map .math)
      = (s.registerAll ((called xs).map .math)).registerAll ((called ys).map .math) := by
  rw [called, List.filterMap_append, List.map_append, Routines.registerAll_append]
  rfl

section

variable {s : Routines}

/-- The first node stops the work before anything is registered. -/
theorem translated_of_offends {e : Scalar} {err : Fault} {after : List Scalar}
    (hwalk : e.walk = e :: after) (hoffends : e.Offends err.code) :
    Translated e s (.error err, s) :=
  .offence (hwalk.trans (List.nil_append _).symm) (List.forall_mem_nil _) hoffends

/-- A function that the generated program has is registered before its argument is looked at. -/
theorem translated_apply {name : String} {f : MathFunction} {arg : Scalar}
    (hf : MathFunction.named? name = some f)
    (harg : Translated arg (s.register (.math f))
      ((formulaNode arg).run.run (s.register (.math f)))) :
    Translated (.apply name arg) s ((formulaNode (.apply name arg)).run.run s) := by
  have hfits : (Scalar.apply name arg).Fits := Scalar.fits_apply hf arg
  have hrun : (formulaNode (.apply name arg)).run.run s
      = (formulaNode arg >>= fun a => pure (.apply f a)).run.run (s.register (.math f)) := by
    rw [formulaNode, MathFunction.ofName?_eq_named?, hf]
    rfl
  rw [hrun]
  generalize hr : (formulaNode arg).run.run (s.register (.math f)) = r at harg
  cases harg with
  | image fits image =>
      rw [run_bind_of_ok hr, ← registerAll_called_apply hf s arg]
      exact .image (List.forall_mem_cons.2 ⟨hfits, fits⟩) (.apply hf image)
  | @offence err before after node walk_eq fits offends =>
      rw [run_bind_of_error hr, ← registerAll_called_apply hf s arg]
      have hwalk : (Scalar.apply name arg).walk
          = (Scalar.apply name arg :: before) ++ node :: after := by
        rw [Scalar.walk, walk_eq, List.cons_append]
      exact .offence hwalk (List.forall_mem_cons.2 ⟨hfits, fits⟩) offends

/-- The left side of an operator that the generated program has is done before the right one. -/
theorem translated_binary {op : ArithOp} {o : FormulaOp} {l r : Scalar}
    (ho : FormulaOp.ofArith? op = some o)
    (hl : Translated l s ((formulaNode l).run.run s))
    (hr : ∀ s, Translated r s ((formulaNode r).run.run s)) :
    Translated (.binary op l r) s ((formulaNode (.binary op l r)).run.run s) := by
  have hfits : (Scalar.binary op l r).Fits := by
    refine Scalar.fits_binary (fun hmod => ?_) l r
    rw [FormulaOp.ofArith?_eq_none.2 hmod] at ho
    cases ho
  have hrun : (formulaNode (.binary op l r)).run.run s
      = (formulaNode l >>= fun a => formulaNode r >>= fun b => pure (.binary o a b)).run.run s := by
    rw [formulaNode, ho]
  have hcalled : ∀ nodes, called (Scalar.binary op l r :: nodes) = called nodes := by
    intro nodes
    rfl
  rw [hrun]
  generalize hrunl : (formulaNode l).run.run s = rl at hl
  cases hl with
  | image fitsl imagel =>
      rw [run_bind_of_ok hrunl]
      specialize hr (s.registerAll ((called l.walk).map .math))
      generalize hrunr : (formulaNode r).run.run (s.registerAll ((called l.walk).map .math)) = rr
        at hr
      cases hr with
      | image fitsr imager =>
          rw [run_bind_of_ok hrunr, ← registerAll_called_append, ← hcalled]
          refine .image (List.forall_mem_cons.2 ⟨hfits, ?_⟩)
            (.binary (FormulaOp.ofArith?_eq_some.1 ho) imagel imager)
          exact List.forall_mem_append.2 ⟨fitsl, fitsr⟩
      | @offence err before after node walk_eq fitsr offends =>
          rw [run_bind_of_error hrunr, ← registerAll_called_append, ← hcalled]
          have hwalk : (Scalar.binary op l r).walk
              = (Scalar.binary op l r :: (l.walk ++ before)) ++ node :: after := by
            rw [Scalar.walk, walk_eq, List.cons_append, List.append_assoc]
          refine .offence hwalk (List.forall_mem_cons.2 ⟨hfits, ?_⟩) offends
          exact List.forall_mem_append.2 ⟨fitsl, fitsr⟩
  | @offence err before after node walk_eq fitsl offends =>
      rw [run_bind_of_error hrunl, ← hcalled]
      have hwalk : (Scalar.binary op l r).walk
          = (Scalar.binary op l r :: before) ++ node :: (after ++ r.walk) := by
        rw [Scalar.walk, walk_eq, List.cons_append, List.append_assoc, List.cons_append]
      exact .offence hwalk (List.forall_mem_cons.2 ⟨hfits, fitsl⟩) offends

/-- **The run over the nodes of an expression** ends in its image, or at the first node that cannot
be computed. -/
theorem translated_formulaNode (e : Scalar) (s : Routines) :
    Translated e s ((formulaNode e).run.run s) := by
  induction e generalizing s with
  | column n => exact .image (List.forall_mem_singleton.2 (Scalar.fits_column n)) (.column n)
  | literal l =>
      cases l with
      | integer v => exact .image (List.forall_mem_singleton.2 nofun) (.integer v)
      | decimal v => exact .image (List.forall_mem_singleton.2 nofun) (.decimal v)
      | text t => exact translated_of_offends rfl (.text t)
  | apply name arg ih =>
      cases hf : MathFunction.named? name with
      | some f => exact translated_apply hf (ih (s.register (.math f)))
      | none =>
          have hrun : (formulaNode (.apply name arg)).run.run s
              = (.error (.expression (.unknownFunction name)), s) := by
            rw [formulaNode, MathFunction.ofName?_eq_named?, hf]
            rfl
          rw [hrun]
          exact translated_of_offends rfl (.function arg hf)
  | binary op l r ihl ihr =>
      cases ho : FormulaOp.ofArith? op with
      | some o => exact translated_binary ho (ihl s) ihr
      | none =>
          obtain rfl := FormulaOp.ofArith?_eq_none.1 ho
          exact translated_of_offends rfl (.modulo l r)

end

/-! ### The whole work -/

/-- All that can become of an expression: its image, the fault of the first node that cannot be
computed, or, if all nodes can, the fault that there is more than one column.  The functions up to
there are added to the routines in each case. -/
inductive Translation (e : Scalar) (s : Routines) : Except Fault Formula × Routines → Prop
  | image {f : Formula} {s' : Routines} (translatable : e.Translatable) (image : Image e f)
      (columns_eq : f.columns = e.columns) (isFloat_eq : f.isFloat = e.isFloat)
      (adds : s.AddsFunctions (called e.walk) s') : Translation e s (.ok f, s')
  | offence {err : Fault} {s' : Routines} {before after : List Scalar} {node : Scalar}
      (walk_eq : e.walk = before ++ node :: after) (fits : ∀ x ∈ before, x.Fits)
      (offends : node.Offends err.code) (adds : s.AddsFunctions (called before) s') :
      Translation e s (.error err, s')
  | columns {err : Fault} {s' : Routines} {m n : Nat} (fits : ∀ x ∈ e.walk, x.Fits)
      (left : .column m ∈ e.walk) (right : .column n ∈ e.walk) (ne : m ≠ n)
      (code_eq : err.code = "EMBEDDB_INTERNAL_INVARIANT")
      (adds : s.AddsFunctions (called e.walk) s') : Translation e s (.error err, s')

theorem translation_formulaOf (e : Scalar) (s : Routines) :
    Translation e s ((formulaOf e).run.run s) := by
  have hnode := translated_formulaNode e s
  unfold formulaOf
  generalize hrun : (formulaNode e).run.run s = r at hnode
  cases hnode with
  | @image f fits image =>
      obtain ⟨-, hoccurrences, -, hfloat⟩ := formulaNode_registers hrun
      have hcolumns : f.columns = e.columns := by
        rw [Formula.columns, hoccurrences, Scalar.columns]
      have hadds := s.addsFunctions_registerAll (called e.walk)
      have hone : e.columns.length ≤ 1 ↔
          ∀ m n, .column m ∈ e.walk → .column n ∈ e.walk → m = n := by
        simp only [Scalar.mem_walk_column]
        exact length_numberSet_le_one
      rw [run_bind_of_ok hrun]
      by_cases hlen : 1 < f.columns.length
      · rw [if_pos hlen]
        rw [hcolumns, ← not_le, hone] at hlen
        push Not at hlen
        obtain ⟨m, n, hm, hn, hne⟩ := hlen
        exact .columns fits hm hn hne rfl hadds
      · rw [if_neg hlen]
        rw [hcolumns, not_lt, hone] at hlen
        exact .image (Scalar.translatable_of_fits fits hlen) image hcolumns hfloat hadds
  | offence walk_eq fits offends =>
      rw [run_bind_of_error hrun]
      exact .offence walk_eq fits offends (s.addsFunctions_registerAll _)

/-- **An expression has a formula exactly if it is translatable**, whatever routines there are; and
this is what becomes of it in either case. -/
theorem formulaOf_translation (e : Scalar) (s : Routines) :
    ((∃ f s', Gathers (formulaOf e) s f s') ↔ e.Translatable) ∧
      Translation e s ((formulaOf e).run.run s) := by
  refine ⟨⟨?_, fun htranslatable => ?_⟩, translation_formulaOf e s⟩
  · rintro ⟨f, s', h⟩
    have htranslation := translation_formulaOf e s
    rw [show (formulaOf e).run.run s = (.ok f, s') from h] at htranslation
    cases htranslation with
    | image translatable => exact translatable
  · have htranslation := translation_formulaOf e s
    generalize hrun : (formulaOf e).run.run s = r at htranslation
    cases htranslation with
    | @image f s' => exact ⟨f, s', hrun⟩
    | offence walk_eq fits offends adds =>
        have hfits := htranslatable.fits _ (walk_eq ▸ List.mem_append_right _ List.mem_cons_self)
        exact absurd offends (hfits _)
    | columns fits left right ne code_eq adds =>
        exact absurd (htranslatable.one_column _ _ left right) ne

end Plan

end SqlPipeline
