/-
**Thresholds only filter.**

What a command reports depends on the level of its journal; what it does must not.  A journal is a
text by the time anybody looks at it, so the statement is about texts: the journal at the higher of
two levels has the lines of the journal at the lower one that say a level at least as high, with
nothing changed in them or between them.  A detail with a line break or a quote in it could make two
lines of one, or a line that says another level than its record has.

Main definitions:

* `Journal.linesOf`, `Journal.severityOf?` — the lines of a text, and the level that a line says;
* `Command.Terminal.recorded` — a terminal after a record, which its level may keep out;
* `Command.OnlyFilters` — work comes out the same at two levels, and its journal at the one is that
  at the other, filtered.

Main results:

* `Journal.severityOf?_body` — a line says the level of its record;
* `Journal.linesOf_lines` — a journal has a line for each record that its level keeps;
* `Command.logged_bind` — records are written as the work goes;
* `Command.run_logged` — the level is asked about each record when its turn comes;
* `Command.onlyFilters_logged` — work with records comes out the same at any two levels;
* `Command.thresholds_only_filter` — **compiling, planning and defining do**.
-/

import SqlPipeline.Command.Run
import SqlPipeline.Proofs.RecordLines

set_option autoImplicit false

namespace SqlPipeline

/-! ### Journals as texts -/

namespace Journal

/-- The lines of a text, without their line breaks. -/
def linesOf (text : String) : List String :=
  (text.toList.splitOn '\n').dropLast.map String.ofList

/-- The text of lines, each with its line break. -/
def textOf (ls : List String) : String :=
  String.join (ls.map (· ++ "\n"))

/-- The level that a line says: that of its first member called so. -/
def severityOf? (line : String) : Option Severity :=
  match Json.read? line with
  | some (.object ms) =>
    match ms.lookup (some "severity") with
    | some (.string (some name)) => Severity.all.find? fun s => s.name == name
    | _ => none
  | _ => none

/-- Whether a line says the given level or a higher one. -/
def isAtLeast (level : Severity) (line : String) : Bool :=
  (severityOf? line).any fun s => level.rank ≤ s.rank

theorem linesOf_append {l : String} (h : '\n' ∉ l.toList) (rest : String) :
    linesOf (l ++ "\n" ++ rest) = l :: linesOf rest := by
  have hbreak : (l ++ "\n" ++ rest).toList = l.toList ++ '\n' :: rest.toList := by simp
  have hsplit : (l.toList ++ '\n' :: rest.toList).splitOn '\n' =
      l.toList :: rest.toList.splitOn '\n' := by
    rw [List.splitOn, List.splitOnP_append_cons_of_forall_mem]
    · rfl
    · intro c hc
      simpa using fun heq : c = '\n' => h (heq ▸ hc)
    · rfl
  have hrest : rest.toList.splitOn '\n' ≠ [] := List.splitOnP_ne_nil _ _
  rw [linesOf, hbreak, hsplit, List.dropLast_cons_of_ne_nil hrest, List.map_cons,
    String.ofList_toList]
  rfl

/-- **Lines can be told from their text.** -/
theorem linesOf_textOf {ls : List String} (h : ∀ l ∈ ls, '\n' ∉ l.toList) :
    linesOf (textOf ls) = ls := by
  induction ls with
  | nil => rfl
  | cons l ls ih =>
      obtain ⟨hl, hls⟩ := List.forall_mem_cons.1 h
      rw [textOf, List.map_cons, String.join_cons, linesOf_append hl]
      exact congrArg (l :: ·) (ih hls)

/-- **A line says the level of its record.** -/
theorem severityOf?_body (r : Record) : severityOf? r.body = some r.severity := by
  have hlookup : (r.members.map Json.textMember).lookup (some "severity") =
      some (.string (some r.severity.name)) := by
    rfl
  rw [severityOf?, Record.read?_body]
  dsimp only
  rw [hlookup]
  cases r.severity <;> rfl

theorem isAtLeast_body (level : Severity) (r : Record) :
    isAtLeast level r.body = level.isEnabled r.severity := by
  rw [isAtLeast, severityOf?_body, Option.any_some, Severity.isEnabled]

/-- **A journal has a line for each record that its level keeps.** -/
theorem linesOf_lines (level : Severity) (rs : List Record) :
    let text := String.join (lines level rs)
    linesOf text = (kept level rs).map Record.body ∧ text = textOf (linesOf text) := by
  have htext : String.join (lines level rs) = textOf ((kept level rs).map Record.body) := by
    rw [lines, textOf, List.map_map]
    exact congrArg String.join (List.map_congr_left fun r _ => r.line_eq)
  have hlines : linesOf (String.join (lines level rs)) = (kept level rs).map Record.body := by
    rw [htext]
    exact linesOf_textOf (List.forall_mem_map.2 fun r _ => r.oneLine_body)
  exact ⟨hlines, by rw [hlines, htext]⟩

/-- A higher level keeps some of what a lower one keeps. -/
theorem kept_kept {s t : Severity} (h : s.rank ≤ t.rank) (rs : List Record) :
    kept t (kept s rs) = kept t rs := by
  unfold kept
  rw [List.filter_filter]
  refine List.filter_congr fun r _ => ?_
  simp only [Severity.isEnabled, Bool.and_eq_left_iff_imp, decide_eq_true_eq]
  omega

end Journal

/-! ### Work at two levels -/

namespace Command

open Journal

variable {α : Type}

/-- Work from the beginning at a level: its result, and what it has written. -/
def atLevel (level : Severity) (x : Working α) : Except Fault α × Terminal :=
  x.run.run { level }

/-- Work that comes out the same at two levels, of which the second is the higher: its journal at
the second level has the lines of that at the first which say the second level or a higher one. -/
structure OnlyFilters (s t : Severity) (x : Working α) : Prop where
  /-- The result is the same. -/
  result : (atLevel t x).1 = (atLevel s x).1
  /-- So is the output. -/
  out : (atLevel t x).2.out = (atLevel s x).2.out
  /-- The journals are made of lines. -/
  whole : ∀ level ∈ [s, t], (atLevel level x).2.err = textOf (linesOf (atLevel level x).2.err)
  /-- The lines at the lower level say that level or a higher one. -/
  severe : ∀ l ∈ linesOf (atLevel s x).2.err, isAtLeast s l = true
  /-- The lines at the higher level are some of those at the lower one. -/
  lines : linesOf (atLevel t x).2.err = (linesOf (atLevel s x).2.err).filter (isAtLeast t)

/-- **Records are written as the work goes**: the level decides about each of them when its turn
comes, and not about all of them in the end. -/
theorem logged_bind {β : Type} (x : Logged α) (f : α → Logged β) :
    logged (x >>= f) = (do let a ← logged x; logged (f a)) := by
  funext T
  show (Except.ok (f x.value).value, ({ T with
      err := T.err ++ String.join (Journal.lines T.level (x.records ++ (f x.value).records)) } :
      Terminal)) =
    (Except.ok (f x.value).value, ({ T with
      err := T.err ++ String.join (Journal.lines T.level x.records)
        ++ String.join (Journal.lines T.level (f x.value).records) } : Terminal))
  rw [Journal.lines, kept, List.filter_append, List.map_append, String.join_append,
    String.append_assoc]
  rfl

/-- The terminal after a record, whose line is written if the level is low enough. -/
def Terminal.recorded (T : Terminal) (r : Record) : Terminal :=
  if T.level.isEnabled r.severity then { T with err := T.err ++ r.line } else T

theorem Terminal.level_recorded (T : Terminal) (r : Record) : (T.recorded r).level = T.level := by
  unfold recorded
  split <;> rfl

theorem run_logged_note (r : Record) (T : Terminal) :
    (logged (note r)).run.run T = (.ok (), T.recorded r) := by
  show (Except.ok (), ({ T with err := T.err ++ String.join (Journal.lines T.level [r]) } :
    Terminal)) = _
  unfold Terminal.recorded
  split
  · next h => simp [Journal.lines, kept, h]
  · next h => simp [Journal.lines, kept, h]

/-- **The level is asked about each record when its turn comes**, by induction on the records: the
first of them is written before the others. -/
theorem run_logged (x : Logged α) (T : Terminal) :
    (logged x).run.run T = (.ok x.value, x.records.foldl Terminal.recorded T) := by
  obtain ⟨a, rs⟩ := x
  induction rs generalizing T with
  | nil =>
      show (Except.ok a, ({ T with err := T.err ++ "" } : Terminal)) = _
      rw [String.append_empty]
      rfl
  | cons r rs ih =>
      have hfirst : (⟨a, r :: rs⟩ : Logged α) = note r >>= fun _ => ⟨a, rs⟩ := rfl
      calc (logged (⟨a, r :: rs⟩ : Logged α)).run.run T
          = (do logged (note r); logged ⟨a, rs⟩ : Working α).run.run T := by
            rw [hfirst, logged_bind]
        _ = (logged (⟨a, rs⟩ : Logged α)).run.run (T.recorded r) := by
            rw [ExceptT.run_bind, StateT.run_bind, run_logged_note]
            rfl
        _ = (.ok a, (r :: rs).foldl Terminal.recorded T) := ih (T.recorded r)

/-- What is written of records are the lines that the level keeps. -/
theorem foldl_recorded (rs : List Record) (T : Terminal) :
    rs.foldl Terminal.recorded T
      = { T with err := T.err ++ String.join (Journal.lines T.level rs) } := by
  induction rs generalizing T with
  | nil =>
      show T = { T with err := T.err ++ "" }
      rw [String.append_empty]
  | cons r rs ih =>
      rw [List.foldl_cons, ih, Terminal.level_recorded]
      unfold Terminal.recorded
      split
      · next h => simp [Journal.lines, kept, h, String.append_assoc]
      · next h => simp [Journal.lines, kept, h]

theorem atLevel_logged (level : Severity) (x : Logged α) :
    atLevel level (logged x) =
      (.ok x.value, { level, err := String.join (Journal.lines level x.records) }) := by
  rw [atLevel, run_logged, foldl_recorded, String.empty_append]

/-- **Work with records comes out the same at any two levels.** -/
theorem onlyFilters_logged {s t : Severity} (h : s.rank ≤ t.rank) (x : Logged α) :
    OnlyFilters s t (logged x) where
  result := by rw [atLevel_logged, atLevel_logged]
  out := by rw [atLevel_logged, atLevel_logged]
  whole := by
    intro level _
    rw [atLevel_logged]
    exact (linesOf_lines level x.records).2
  severe := by
    intro l hl
    rw [atLevel_logged, (linesOf_lines s x.records).1] at hl
    obtain ⟨r, hr, rfl⟩ := List.mem_map.1 hl
    rw [isAtLeast_body]
    exact (List.mem_filter.1 hr).2
  lines := by
    have hbody : isAtLeast t ∘ Record.body = fun r => t.isEnabled r.severity := by
      funext r
      rw [Function.comp_apply, isAtLeast_body]
    rw [atLevel_logged, atLevel_logged, (linesOf_lines t x.records).1,
      (linesOf_lines s x.records).1, List.filter_map, hbody, ← kept_kept h]
    rfl

/-- **Thresholds only filter.**  At any two levels, compiling a text, planning it and executing it
as a script come out the same, with the same catalog in the end, and the journal at the higher level
has the lines of that at the lower one which say the higher level or more, in their order. -/
theorem thresholds_only_filter (c : Catalog.Store) (text : String) {s t : Severity}
    (h : s.rank ≤ t.rank) :
    OnlyFilters s t (logged (compile c text).run) ∧
    OnlyFilters s t (logged (planText c text).run) ∧
    OnlyFilters s t (logged (c.execute text)) :=
  ⟨onlyFilters_logged h _, onlyFilters_logged h _, onlyFilters_logged h _⟩

/-- A text with a line break and quotes in a name, on a table that is not there. -/
def brokenName : String :=
  "SELECT \"a\nb\" FROM nowhere"

theorem thresholds_only_filter_brokenName :
    Severity.trace.rank ≤ Severity.warn.rank ∧
      OnlyFilters .trace .warn (logged (compile {} brokenName).run) ∧
      OnlyFilters .trace .warn (logged (planText {} brokenName).run) ∧
      OnlyFilters .trace .warn (logged (Catalog.Store.execute {} brokenName)) :=
  have h : Severity.trace.rank ≤ Severity.warn.rank := by decide
  ⟨h, thresholds_only_filter {} brokenName h⟩

end Command

end SqlPipeline
