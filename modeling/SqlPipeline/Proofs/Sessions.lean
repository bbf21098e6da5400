/-
**Sessions are the statements of their lines.**

A session keeps the lines of a statement until a line ends it, and what it then does depends on the
catalog.  Which statements its lines make up does not: blank lines, the lines that leave a session
and the semicolons are the same whatever the statements did.  So a session comes to cutting its
lines into statements and executing these one after the other, failed ones among them, and how
sessions compose is a question about the cutting alone.

Main definitions:

* `Session.between` — whether a statement begins after lines;
* `Session.Stays` — no line at the beginning of a statement leaves the session;
* `Session.statementsFrom` — the statements that lines make up;
* `Session.readable` — the lines up to the first that is no text;
* `Session.executeAll` — statements, one after the other.

Main results:

* `Session.accumulate_cases` — what a line can do;
* `Session.runLines_eq` — a session is the execution of its statements;
* `Session.statementsFrom_append`, `Session.statementsFrom_leave`, `Session.statementsFrom_open` —
  cutting lines that follow each other;
* `Session.sessions_compose` — **sessions compose**.
-/

import Mathlib.Data.List.Basic
import SqlPipeline.Session

set_option autoImplicit false

namespace SqlPipeline

/-! ### What reaches the reader of faults -/

namespace Emission

/-- The messages about faults and the records. -/
def notices (es : List Emission) : List Emission :=
  es.filter fun e => !e matches out _

@[simp] theorem notices_append (es es' : List Emission) :
    notices (es ++ es') = notices es ++ notices es' :=
  List.filter_append es es'

@[simp] theorem notices_out (text : String) (es : List Emission) :
    notices (out text :: es) = notices es := rfl

theorem errText_notices (es : List Emission) : errText (notices es) = errText es := by
  unfold errText
  congr 1
  induction es with
  | nil => rfl
  | cons e es ih => cases e <;> simp [notices] at ih ⊢ <;> exact ih

theorem errWithLines_notices (t : Journal.Severity) (es : List Emission) :
    errWithLines t (notices es) = errWithLines t es := by
  unfold errWithLines
  congr 1
  induction es with
  | nil => rfl
  | cons e es ih => cases e <;> simp [notices] at ih ⊢ <;> exact ih

theorem errText_append (es es' : List Emission) :
    errText (es ++ es') = errText es ++ errText es' := by
  simp [errText]

theorem errWithLines_append (t : Journal.Severity) (es es' : List Emission) :
    errWithLines t (es ++ es') = errWithLines t es ++ errWithLines t es' := by
  simp [errWithLines]

end Emission

namespace Session

/-! ### Cutting lines into statements -/

/-- Whether a line has nothing but blanks. -/
def isBlankLine (l : String) : Bool :=
  (Text.trim l).isEmpty

/-- Whether a statement begins after lines, if `start` says whether one began before them: the last
line that is not blank ends a statement. -/
def between (start : Bool) (ls : List String) : Bool :=
  ((ls.filter fun l => !isBlankLine l).getLast?.map fun l => endsStatement (Text.trim l)).getD start

/-- No line at the beginning of a statement leaves the session. -/
def Stays (start : Bool) (ls : List String) : Prop :=
  ∀ i (h : i < ls.length), between start (ls.take i) = true → isExit (Text.trim ls[i]) = false

instance (start : Bool) (ls : List String) : Decidable (Stays start ls) :=
  inferInstanceAs (Decidable (∀ i (_ : i < ls.length), _))

/-- What a line does to the lines of a statement that has not ended, and the statement that it
ends; `none` if it leaves the session. -/
def accumulate (buffer line : String) : Option (String × List String) :=
  if buffer.isEmpty && isBlankLine line then some (buffer, [])
  else if buffer.isEmpty && isExit (Text.trim line) then none
  else if endsStatement (Text.trim line) then some ("", [Text.trim (buffer ++ line ++ "\n")])
  else some (buffer ++ line ++ "\n", [])

/-- The statements that lines make up, after the lines of one that has not ended. -/
def statementsFrom (buffer : String) : List String → List String
  | [] => []
  | l :: ls =>
    match accumulate buffer l with
    | none => []
    | some (buffer', sts) => sts ++ statementsFrom buffer' ls

theorem statementsFrom_cons_none {buffer l : String} (h : accumulate buffer l = none)
    (ls : List String) : statementsFrom buffer (l :: ls) = [] := by
  rw [statementsFrom, h]

theorem statementsFrom_cons_some {buffer l buffer' : String} {sts : List String}
    (h : accumulate buffer l = some (buffer', sts)) (ls : List String) :
    statementsFrom buffer (l :: ls) = sts ++ statementsFrom buffer' ls := by
  rw [statementsFrom, h]

theorem between_cons (start : Bool) (l : String) (ls : List String) :
    between start (l :: ls) =
      between (if isBlankLine l then start else endsStatement (Text.trim l)) ls := by
  unfold between
  by_cases hl : isBlankLine l = true
  · simp [hl]
  · rw [List.filter_cons_of_pos (by simpa using hl), List.getLast?_cons, if_neg hl]
    cases (ls.filter fun l => !isBlankLine l).getLast? <;> simp

theorem stays_cons {start : Bool} {l : String} {ls : List String} (h : Stays start (l :: ls)) :
    (start = true → isExit (Text.trim l) = false) ∧
      Stays (if isBlankLine l then start else endsStatement (Text.trim l)) ls := by
  constructor
  · intro hs
    exact h 0 (Nat.zero_lt_succ _) hs
  · intro i hi hb
    refine h (i + 1) (Nat.succ_lt_succ hi) ?_
    rw [List.take_succ_cons, between_cons]
    exact hb

/-- **What a line can do.**  It leaves the session, and then a statement begins there; or it is
taken, and then the next line begins a statement as the line says, and a statement ends only with
a line that ends one. -/
theorem accumulate_cases (buffer l : String) :
    (accumulate buffer l = none ∧ buffer.isEmpty = true ∧ isExit (Text.trim l) = true) ∨
    ∃ buffer' sts, accumulate buffer l = some (buffer', sts) ∧
      buffer'.isEmpty = (if isBlankLine l then buffer.isEmpty else endsStatement (Text.trim l)) ∧
      (buffer.isEmpty = true → isExit (Text.trim l) = false) ∧
      (endsStatement (Text.trim l) = false → sts = []) := by
  -- a blank line neither leaves the session nor ends a statement
  have hblank : isBlankLine l = true →
      isExit (Text.trim l) = false ∧ endsStatement (Text.trim l) = false := by
    intro h
    rw [String.isEmpty_iff.1 h]
    decide
  have hlong : (buffer ++ l ++ "\n").isEmpty = false := by simp [String.isEmpty]
  unfold accumulate
  split
  next h =>
    obtain ⟨hb, hl⟩ := Bool.and_eq_true_iff.1 h
    exact .inr ⟨_, _, rfl, by rw [if_pos hl], fun _ => (hblank hl).1, fun _ => rfl⟩
  next h =>
    split
    next hx =>
      exact .inl ⟨rfl, Bool.and_eq_true_iff.1 hx⟩
    next hx =>
      have hx' : buffer.isEmpty = true → isExit (Text.trim l) = false := by
        intro hb
        simpa [hb] using hx
      split
      next he =>
        have hl : ¬ isBlankLine l = true := by
          intro hl
          simp [(hblank hl).2] at he
        exact .inr ⟨_, _, rfl, by rw [if_neg hl, he]; rfl, hx', by simp [he]⟩
      next he =>
        refine .inr ⟨_, _, rfl, ?_, hx', fun _ => rfl⟩
        by_cases hl : isBlankLine l = true
        · rw [if_pos hl, hlong]
          simpa [hl] using h
        · rw [if_neg hl, hlong]
          simpa using he

/-! ### A session executes its statements -/

/-- The catalog after statements, one after the other, and what is put out. -/
def executeAll (explained : Bool) (c : Catalog.Store) : List String → Catalog.Store × List Emission
  | [] => (c, [])
  | st :: sts =>
    let r := execute c explained st
    let rest := executeAll explained r.1 sts
    (rest.1, r.2 ++ rest.2)

variable {explained : Bool}

theorem executeAll_append (c : Catalog.Store) (sts sts' : List String) :
    executeAll explained c (sts ++ sts') =
      let first := executeAll explained c sts
      let rest := executeAll explained first.1 sts'
      (rest.1, first.2 ++ rest.2) := by
  induction sts generalizing c with
  | nil => rfl
  | cons st sts ih => simp [executeAll, ih]

theorem execute_of_isQuery (c : Catalog.Store) {st : String} (h : isQuery st = true) :
    (execute c explained st).1 = c := by
  rw [execute, if_pos h]

/-- Queries can be left out, as far as the catalog goes. -/
theorem executeAll_filter (c : Catalog.Store) (sts : List String) :
    (executeAll explained c sts).1 =
      (executeAll explained c (sts.filter fun st => !isQuery st)).1 := by
  induction sts generalizing c with
  | nil => rfl
  | cons st sts ih =>
      by_cases h : isQuery st = true
      · rw [List.filter_cons_of_neg (by simpa using h), ← ih]
        show (executeAll explained (execute c explained st).1 sts).1 = _
        rw [execute_of_isQuery c h]
      · rw [List.filter_cons_of_pos (by simpa using h)]
        exact ih _

/-- A line is taken, and the statement that it ends is executed. -/
theorem step_eq (s : Session) (l : String) :
    s.step explained l = (accumulate s.buffer l).map fun p =>
      let r := executeAll explained s.catalog p.2
      ({ catalog := r.1, buffer := p.1 }, r.2) := by
  unfold step accumulate isBlankLine
  dsimp only
  split
  · rfl
  · split
    · rfl
    · split
      · simp [executeAll]
      · rfl

/-- The lines up to the first that is no text. -/
def readable : List (Option String) → List String
  | some l :: ls => l :: readable ls
  | _ => []

theorem readable_map_some (ls : List String) : readable (ls.map some) = ls := by
  induction ls with
  | nil => rfl
  | cons l ls ih => rw [List.map_cons, readable, ih]

/-- A session, begun or not, executes the statements of its lines, up to the first that is no text,
and puts out what these put out. -/
theorem runLines_eq (s : Session) (ls : List (Option String)) :
    let r := executeAll explained s.catalog (statementsFrom s.buffer (readable ls))
    let e := runLines explained s ls
    e.session.catalog = r.1 ∧ Emission.notices e.emissions = Emission.notices r.2 ∧
      r.2 ⊆ e.emissions := by
  induction ls generalizing s with
  | nil => exact ⟨rfl, rfl, List.nil_subset _⟩
  | cons l ls ih =>
      dsimp only at ih ⊢
      cases l with
      | none => exact ⟨rfl, rfl, List.nil_subset _⟩
      | some l =>
          rw [readable, runLines, step_eq]
          cases h : accumulate s.buffer l with
          | none =>
              rw [statementsFrom_cons_none h]
              exact ⟨rfl, rfl, List.nil_subset _⟩
          | some p =>
              obtain ⟨buffer', sts⟩ := p
              rw [statementsFrom_cons_some h, executeAll_append]
              obtain ⟨hc, hn, hout⟩ := ih ⟨(executeAll explained s.catalog sts).1, buffer'⟩
              refine ⟨hc, ?_, ?_⟩
              · simp [hn]
              · refine List.append_subset.2 ⟨fun x hx => ?_, fun x hx => ?_⟩
                · exact List.mem_append_left _ (List.mem_cons_of_mem _ hx)
                · exact List.mem_append_right _ (hout hx)

/-- A session on lines of text reads all of them. -/
theorem isReadable_runLines (s : Session) (ls : List String) :
    (runLines explained s (ls.map some)).isReadable = true := by
  induction ls generalizing s with
  | nil => rfl
  | cons l ls ih =>
      rw [List.map_cons, runLines]
      split
      · rfl
      · exact ih _

variable (explained) (c : Catalog.Store) (ls : List String)

theorem catalog_run :
    (run explained c (ls.map some)).session.catalog =
      (executeAll explained c (statementsFrom "" ls)).1 := by
  have h := (@runLines_eq explained ⟨c, ""⟩ (ls.map some)).1
  rwa [readable_map_some] at h

theorem notices_run :
    Emission.notices (run explained c (ls.map some)).emissions =
      Emission.notices (executeAll explained c (statementsFrom "" ls)).2 := by
  have h := (@runLines_eq explained ⟨c, ""⟩ (ls.map some)).2.1
  rwa [readable_map_some] at h

theorem isReadable_run : (run explained c (ls.map some)).isReadable = true :=
  isReadable_runLines ⟨c, ""⟩ ls

/-! ### Lines that follow each other -/

section

variable (buffer : String) {A B : List String}

/-- Lines that stay in the session and end between statements are cut by themselves. -/
theorem statementsFrom_append (hA : Stays buffer.isEmpty A) (hb : between buffer.isEmpty A = true) :
    statementsFrom buffer (A ++ B) = statementsFrom buffer A ++ statementsFrom "" B := by
  -- along the lines, for whatever statement has not ended before them
  induction A generalizing buffer with
  | nil =>
      rw [String.isEmpty_iff.1 (show buffer.isEmpty = true from hb)]
      rfl
  | cons l A ih =>
      obtain ⟨hl, hA⟩ := stays_cons hA
      rw [between_cons] at hb
      rcases accumulate_cases buffer l with ⟨-, hs, hx⟩ | ⟨buffer', sts, h, hs, -, -⟩
      · rw [hl hs] at hx
        cases hx
      · rw [← hs] at hA hb
        rw [List.cons_append, statementsFrom_cons_some h, statementsFrom_cons_some h,
          ih buffer' hA hb, List.append_assoc]

/-- Nothing is cut after a line that leaves the session. -/
theorem statementsFrom_leave {l : String} (hb : between buffer.isEmpty A = true)
    (hl : isExit (Text.trim l) = true) :
    statementsFrom buffer (A ++ l :: B) = statementsFrom buffer A := by
  induction A generalizing buffer with
  | nil =>
      rcases accumulate_cases buffer l with ⟨h, -, -⟩ | ⟨_, _, -, -, hx, -⟩
      · exact statementsFrom_cons_none h B
      · rw [hx hb] at hl
        cases hl
  | cons l' A ih =>
      rw [between_cons] at hb
      rcases accumulate_cases buffer l' with ⟨h, -, -⟩ | ⟨buffer', sts, h, hs, -, -⟩
      · rw [List.cons_append, statementsFrom_cons_none h, statementsFrom_cons_none h]
      · rw [← hs] at hb
        rw [List.cons_append, statementsFrom_cons_some h, statementsFrom_cons_some h, ih buffer' hb]

/-- Lines that end no statement make up none. -/
theorem statementsFrom_eq_nil (hB : ∀ l ∈ B, endsStatement (Text.trim l) = false) :
    statementsFrom buffer B = [] := by
  induction B generalizing buffer with
  | nil => rfl
  | cons l B ih =>
      obtain ⟨hl, hB⟩ := List.forall_mem_cons.1 hB
      rcases accumulate_cases buffer l with ⟨h, -, -⟩ | ⟨buffer', sts, h, -, -, hsts⟩
      · exact statementsFrom_cons_none h B
      · rw [statementsFrom_cons_some h, hsts hl, ih buffer' hB]
        rfl

/-- Nothing is cut from lines at the end that end no statement. -/
theorem statementsFrom_open (hB : ∀ l ∈ B, endsStatement (Text.trim l) = false) :
    statementsFrom buffer (A ++ B) = statementsFrom buffer A := by
  induction A generalizing buffer with
  | nil => exact statementsFrom_eq_nil buffer hB
  | cons l A ih =>
      rcases accumulate_cases buffer l with ⟨h, -, -⟩ | ⟨buffer', sts, h, -, -, -⟩
      · rw [List.cons_append, statementsFrom_cons_none h, statementsFrom_cons_none h]
      · rw [List.cons_append, statementsFrom_cons_some h, statementsFrom_cons_some h, ih buffer']

end

/-- Lines that stay in the session and end between statements: the session on them and on further
lines is the session on them, and then one on the further lines with the catalog they leave. -/
theorem run_append {A : List String} (hA : Stays true A) (hb : between true A = true)
    (B : List String) :
    let a := run explained c (A.map some)
    let b := run explained a.session.catalog (B.map some)
    let both := run explained c ((A ++ B).map some)
    both.session.catalog = b.session.catalog ∧
      Emission.notices both.emissions =
        Emission.notices a.emissions ++ Emission.notices b.emissions := by
  dsimp only
  rw [catalog_run, catalog_run, catalog_run, notices_run, notices_run, notices_run,
    statementsFrom_append "" hA hb, executeAll_append]
  exact ⟨rfl, Emission.notices_append _ _⟩

/-- **Sessions compose.**

1. A session on lines of text comes to its end.
2. A query leaves the catalog as it is; so the catalog of a session is the one after its other
   statements.
3. If no line of `A` leaves the session at the beginning of a statement, and `A` ends between
   statements, then the session on `A` and `B` has the catalog of the session on `B` that begins
   with the catalog which the session on `A` leaves, and puts out the messages about faults of the
   two, one after the other, with the records among them or without.
4. Lines after one that leaves the session at the beginning of a statement do not change the
   catalog, nor do lines at the end that end no statement. -/
theorem sessions_compose (explained : Bool) (c : Catalog.Store) :
    (∀ ls : List String, (run explained c (ls.map some)).isReadable = true) ∧
    (∀ st, isQuery st = true → (execute c explained st).1 = c) ∧
    (∀ ls : List String, (run explained c (ls.map some)).session.catalog =
      (executeAll explained c ((statementsFrom "" ls).filter fun st => !isQuery st)).1) ∧
    (∀ A B : List String, Stays true A → between true A = true →
      let a := run explained c (A.map some)
      let b := run explained a.session.catalog (B.map some)
      let both := run explained c ((A ++ B).map some)
      both.session.catalog = b.session.catalog ∧
        Emission.errText both.emissions =
          Emission.errText a.emissions ++ Emission.errText b.emissions ∧
        ∀ t, Emission.errWithLines t both.emissions =
          Emission.errWithLines t a.emissions ++ Emission.errWithLines t b.emissions) ∧
    (∀ (A : List String) (l : String) (B : List String), between true A = true →
      isExit (Text.trim l) = true →
      (run explained c ((A ++ l :: B).map some)).session.catalog =
        (run explained c (A.map some)).session.catalog) ∧
    ∀ A U : List String, (∀ l ∈ U, endsStatement (Text.trim l) = false) →
      (run explained c ((A ++ U).map some)).session.catalog =
        (run explained c (A.map some)).session.catalog := by
  refine ⟨isReadable_run explained c, fun st => execute_of_isQuery c, ?_, ?_, ?_, ?_⟩
  · intro ls
    rw [catalog_run, executeAll_filter]
  · intro A B hA hb
    obtain ⟨hc, hn⟩ := run_append explained c hA hb B
    refine ⟨hc, ?_, fun t => ?_⟩
    · rw [← Emission.errText_notices, hn, Emission.errText_append, Emission.errText_notices,
        Emission.errText_notices]
    · rw [← Emission.errWithLines_notices, hn, Emission.errWithLines_append,
        Emission.errWithLines_notices, Emission.errWithLines_notices]
  · intro A l B hb hl
    rw [catalog_run, catalog_run, statementsFrom_leave "" hb hl]
  · intro A U hU
    rw [catalog_run, catalog_run, statementsFrom_open "" hU]

/-- Lines with a statement in which a line stands that would leave the session between statements, a
blank line, and a statement that fails. -/
def fittingOut : List String :=
  ["CREATE TABLE berths (id INT,", "exit", "INT);", " ", "SELECT depth FROM berths;", ""]

/-- Lines that make a table, leave the session, and have more after it. -/
def mooring : List String :=
  ["CREATE TABLE berths (id INT PRIMARY KEY);", "Quit ;", "CREATE TABLE piers (id INT);"]

theorem sessions_compose_fittingOut :
    Stays true fittingOut ∧ between true fittingOut = true ∧
      (let a := run false {} (fittingOut.map some)
       let b := run false a.session.catalog (mooring.map some)
       (run false {} ((fittingOut ++ mooring).map some)).session.catalog = b.session.catalog) ∧
      (run false {} (mooring.map some)).session.catalog =
        (run false {} ((mooring.take 1).map some)).session.catalog ∧
      (run false {} ((mooring ++ ["SELECT", "exit"]).map some)).session.catalog =
        (run false {} (mooring.map some)).session.catalog := by
  have hA : Stays true fittingOut := by decide +kernel
  have hb : between true fittingOut = true := by decide +kernel
  obtain ⟨-, -, -, hcompose, hleave, hopen⟩ := sessions_compose false {}
  exact ⟨hA, hb, (hcompose fittingOut mooring hA hb).1,
    hleave (mooring.take 1) "Quit ;" (mooring.drop 2) (by decide +kernel) (by decide +kernel),
    hopen mooring ["SELECT", "exit"] (by decide +kernel)⟩

end Session

end SqlPipeline
