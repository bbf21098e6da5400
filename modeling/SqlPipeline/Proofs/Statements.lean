/-
**The statements of a generated program.**

A generated program is a text, and what it does is read off its lines.  The lines are made from
pieces: fixed pieces, numbers, formulas, and names that come from a query or a table.  A name with a
line break in it could put any statement into the program; here it is shown that nothing else
can, so the lines of the text are the lines that were generated.

Main definitions:

* `Text.isIdentifier` — a name of the generated language;
* `Listing.statements` — the lines of a text, without the blanks before them;
* `Listing.OneLine` — a text without line breaks.

Main results:

* `Listing.statements_text` — the lines of the text of lines are these lines;
* `Listing.oneLine_textWith` — a formula stays on its line;
* `Listing.statements_of_ofProgram` — **the lines of a program are those of its routines and of
  its two procedures**.
-/

import Mathlib
import SqlPipeline.Listing.Basic
import SqlPipeline.Proofs.Outcome
import SqlPipeline.Query.Names

set_option autoImplicit false

namespace SqlPipeline

/-- A name of the generated language: letters, digits and underscores, and no digit first. -/
def Text.isIdentifier (s : String) : Bool :=
  match s.toList with
  | [] => false
  | c :: cs => (c.isAlpha || c == '_') && cs.all Query.isIdentifierChar

namespace Listing

open Layout Outcome Plan Query

/-! ### Lines of a text -/

/-- Characters without the blanks before them. -/
def unindented (cs : List Char) : String :=
  String.ofList (cs.dropWhile (· == ' '))

/-- The lines of a text, without the blanks before them. -/
def statements (t : String) : List String :=
  (t.toList.splitOn '\n').map unindented

/-- A text without line breaks. -/
def OneLine (s : String) : Prop :=
  '\n' ∉ s.toList

theorem statements_append_newline {s : String} (h : OneLine s) (rest : String) :
    statements (s ++ "\n" ++ rest) = unindented s.toList :: statements rest := by
  have hbreak : (s ++ "\n" ++ rest).toList = s.toList ++ '\n' :: rest.toList := by simp
  rw [statements, hbreak, List.splitOn, List.splitOnP_append_cons_of_forall_mem]
  · rfl
  · intro c hc
    simpa using fun heq : c = '\n' => h (heq ▸ hc)
  · rfl

/-- The text of a line, without the blanks before it. -/
def Line.statement : Line → String
  | .blank => ""
  | .code _ t => unindented t.toList

/-- A line whose text stays on it. -/
def Line.OneLine : Line → Prop
  | .blank => True
  | .code _ t => Listing.OneLine t

theorem mem_indentation {depth : Nat} {c : Char} (h : c ∈ (indentation depth).toList) :
    c = ' ' := by
  simp only [indentation, String.toList_join, List.mem_flatMap, List.mem_replicate] at h
  obtain ⟨_, ⟨-, rfl⟩, h⟩ := h
  simpa using h

theorem Line.statements_text_append {l : Line} (h : l.OneLine) (rest : String) :
    statements (l.text ++ rest) = l.statement :: statements rest := by
  cases l with
  | blank => exact statements_append_newline (s := "") (by simp [Listing.OneLine]) rest
  | code depth t =>
      have hline : Listing.OneLine (indentation depth ++ t) := by
        intro hmem
        rw [String.toList_append, List.mem_append] at hmem
        rcases hmem with hmem | hmem
        · cases mem_indentation hmem
        · exact h hmem
      rw [Line.text, statements_append_newline hline, unindented, String.toList_append,
        List.dropWhile_append_of_pos fun c hc => by rw [mem_indentation hc]; rfl]
      rfl

theorem text_cons (l : Line) (ls : List Line) : text (l :: ls) = l.text ++ text ls := by
  rw [text, List.map_cons, String.join_cons]
  rfl

theorem text_append (ls ms : List Line) : text (ls ++ ms) = text ls ++ text ms := by
  rw [text, List.map_append, String.join_append]
  rfl

/-- **The lines of the text of lines are these lines.** -/
theorem statements_text {ls : List Line} (h : ∀ l ∈ ls, l.OneLine) (rest : String) :
    statements (text ls ++ rest) = ls.map Line.statement ++ statements rest := by
  induction ls with
  | nil =>
      rw [text, List.map_nil, String.join_nil, String.empty_append]
      rfl
  | cons l ls ih =>
      obtain ⟨hl, hls⟩ := List.forall_mem_cons.1 h
      rw [text_cons, String.append_assoc, Line.statements_text_append hl, ih hls]
      rfl

theorem statement_indented (l : Line) : l.indented.statement = l.statement := by
  cases l <;> rfl

/-- The lines of a block are its head, its body and its end. -/
theorem statements_block (head : String) (body : List Line) :
    (block head body).map Line.statement
      = unindented (head ++ " \x7b").toList :: body.map Line.statement ++ ["\x7d"] := by
  rw [block, List.map_append, List.map_cons, List.map_map]
  congr 2
  exact List.map_congr_left fun l _ => statement_indented l

/-! ### Texts without line breaks -/

theorem oneLine_lit {cs : List Char} (h : cs.contains '\n' = false) :
    OneLine (String.ofList cs) := by
  rw [OneLine, String.toList_ofList]
  simpa using h

theorem oneLine_empty : OneLine "" := by
  rw [OneLine, String.toList_empty]
  exact List.not_mem_nil

/-- Two pieces of fixed text make one. -/
theorem append_lit {a b c : List Char} (h : a ++ b = c) :
    String.ofList a ++ String.ofList b = String.ofList c := by
  rw [← h, String.ofList_append]

theorem OneLine.append {a b : String} (ha : OneLine a) (hb : OneLine b) : OneLine (a ++ b) := by
  rw [OneLine, String.toList_append, List.mem_append]
  exact fun h => h.elim ha hb

theorem isIdentifierChar_of_isIdentifier {s : String} (h : Text.isIdentifier s = true) :
    ∀ c ∈ s.toList, Query.isIdentifierChar c = true := by
  unfold Text.isIdentifier at h
  split at h
  · cases h
  · next c cs hcons =>
      rw [Bool.and_eq_true, List.all_eq_true] at h
      rw [hcons]
      refine List.forall_mem_cons.2 ⟨?_, h.2⟩
      rw [Query.isIdentifierChar, Char.isAlphanum, Bool.or_right_comm, h.1, Bool.true_or]

theorem oneLine_of_isIdentifier {s : String} (h : Text.isIdentifier s = true) : OneLine s :=
  fun hmem => absurd (isIdentifierChar_of_isIdentifier h _ hmem) (by decide)

theorem oneLine_intercalate {sep : String} (hsep : OneLine sep) {ss : List String}
    (h : ∀ s ∈ ss, OneLine s) : OneLine (sep.intercalate ss) := by
  induction ss with
  | nil => exact oneLine_empty
  | cons s ss ih =>
      obtain ⟨hs, hss⟩ := List.forall_mem_cons.1 h
      cases ss with
      | nil => simpa using hs
      | cons u ss =>
          rw [String.intercalate_cons_cons]
          exact (hs.append hsep).append (ih hss)

theorem oneLine_name (t : Storage) : OneLine t.name := by
  cases t <;> exact oneLine_lit rfl

theorem oneLine_suffix (op : Comparator) : OneLine op.suffix := by
  cases op <;> exact oneLine_lit rfl

/-! ### Numbers and formulas -/

/-- A character of a number: a digit, a sign, a point, or a letter of what is no ordinary number. -/
def isNumeralChar (c : Char) : Bool :=
  c.isDigit || ['-', '.', 'e', 'N', 'a', 'i', 'n', 'f'].contains c

/-- A text made from the characters of numbers. -/
def Numeral (s : String) : Prop :=
  ∀ c ∈ s.toList, isNumeralChar c = true

theorem numeral_empty : Numeral "" := by
  rw [Numeral, String.toList_empty]
  exact nofun

theorem numeral_lit {cs : List Char} (h : cs.all isNumeralChar = true) :
    Numeral (String.ofList cs) := by
  rw [Numeral, String.toList_ofList]
  exact List.all_eq_true.1 h

theorem Numeral.append {a b : String} (ha : Numeral a) (hb : Numeral b) : Numeral (a ++ b) := by
  rw [Numeral, String.toList_append]
  exact List.forall_mem_append.2 ⟨ha, hb⟩

/-- A character that is in no number. -/
theorem Numeral.not_mem {s : String} (h : Numeral s) {c : Char} (hc : isNumeralChar c = false) :
    c ∉ s.toList := by
  intro hmem
  rw [h c hmem] at hc
  cases hc

theorem Numeral.oneLine {s : String} (h : Numeral s) : OneLine s :=
  h.not_mem (by decide)

theorem numeral_digits {cs : List Char} (h : ∀ c ∈ cs, c.isDigit = true) :
    Numeral (String.ofList cs) := by
  intro c hc
  rw [String.toList_ofList] at hc
  rw [isNumeralChar, h c hc, Bool.true_or]

theorem isDigit_of_mem_toString {n : Nat} {c : Char} (h : c ∈ (toString n).toList) :
    c.isDigit = true := by
  rw [Nat.toString_eq_repr, Nat.toList_repr] at h
  exact Nat.isDigit_of_mem_toDigits (by decide) (by decide) h

theorem toString_toList_ne_nil (n : Nat) : (toString n).toList ≠ [] := by
  rw [Nat.toString_eq_repr, Nat.toList_repr]
  exact Nat.toDigits_ne_nil

theorem numeral_nat (n : Nat) : Numeral (toString n) := by
  rw [← String.ofList_toList (s := toString n)]
  exact numeral_digits fun c hc => isDigit_of_mem_toString hc

theorem numeral_int (v : Int) : Numeral (toString v) := by
  rw [Int.toString_eq_repr, Int.repr_eq_if]
  split
  · exact numeral_nat _
  · exact (numeral_lit rfl).append (numeral_nat _)

theorem oneLine_nat (n : Nat) : OneLine (toString n) :=
  (numeral_nat n).oneLine

theorem oneLine_int (v : Int) : OneLine (toString v) :=
  (numeral_int v).oneLine

/-- Digits that are all digits. -/
def DigitsOnly (d : Binary64.Digits) : Prop :=
  ∀ c ∈ d.digits, c.isDigit = true

theorem digitsOnly_gridDigits (c : Nat) (unit : Int) : DigitsOnly (Binary64.gridDigits c unit) := by
  intro x hx
  rw [Binary64.gridDigits, List.mem_reverse] at hx
  have hmem := List.mem_reverse.1 ((List.dropWhile_sublist _).subset hx)
  exact Nat.isDigit_of_mem_toDigits (by decide) (by decide) hmem

theorem digitsOnly_neighbour {i : Binary64.Interval} {unit : Int} {d : Binary64.Digits}
    (h : Binary64.neighbour i unit = some d) : DigitsOnly d := by
  unfold Binary64.neighbour at h
  dsimp only at h
  split at h
  · split at h
    · cases h
      exact digitsOnly_gridDigits _ _
    · cases h
      exact digitsOnly_gridDigits _ _
  · split at h
    · cases h
      exact digitsOnly_gridDigits _ _
    · split at h
      · cases h
        exact digitsOnly_gridDigits _ _
      · cases h

theorem digitsOnly_firstGrid (i : Binary64.Interval) (k : Int) (fuel n : Nat) :
    DigitsOnly (Binary64.firstGrid i k fuel n) := by
  induction fuel generalizing n with
  | zero => exact nofun
  | succ fuel ih =>
      rw [Binary64.firstGrid]
      split
      · next d hd => exact digitsOnly_neighbour hd
      · exact ih _

theorem isDigit_replicate_zero (n : Nat) : ∀ c ∈ List.replicate n '0', c.isDigit = true := by
  intro c hc
  rw [List.eq_of_mem_replicate hc]
  rfl

theorem numeral_positional {d : Binary64.Digits} (h : DigitsOnly d) :
    Numeral (Binary64.positional d) := by
  unfold Binary64.positional
  split
  · refine (numeral_lit rfl).append (numeral_digits ?_)
    exact List.forall_mem_append.2 ⟨isDigit_replicate_zero _, h⟩
  · refine (Numeral.append (numeral_digits ?_) (numeral_lit rfl)).append ?_
    · exact List.forall_mem_append.2
        ⟨fun c hc => h c (List.mem_of_mem_take hc), isDigit_replicate_zero _⟩
    · split
      · exact numeral_lit rfl
      · exact numeral_digits fun c hc => h c (List.mem_of_mem_drop hc)

theorem numeral_exponential {d : Binary64.Digits} (h : DigitsOnly d) :
    Numeral (Binary64.exponential d) := by
  unfold Binary64.exponential
  refine ((Numeral.append ?_ ?_).append (numeral_lit rfl)).append (numeral_int _)
  · exact numeral_digits fun c hc => h c (List.mem_of_mem_take hc)
  · split
    · exact numeral_empty
    · refine (numeral_lit rfl).append (numeral_digits ?_)
      exact fun c hc => h c (List.mem_of_mem_drop hc)

theorem numeral_decimal (v : Binary64) : Numeral v.text := by
  unfold Binary64.text
  split
  · exact numeral_lit rfl
  · split <;> exact numeral_lit rfl
  · refine Numeral.append ?_ ?_
    · split
      · exact numeral_lit rfl
      · exact numeral_empty
    · split
      · exact numeral_lit rfl
      · unfold Binary64.layout
        split
        · exact numeral_positional (digitsOnly_firstGrid _ _ _ _)
        · exact numeral_exponential (digitsOnly_firstGrid _ _ _ _)

theorem oneLine_decimal (v : Binary64) : OneLine v.text :=
  (numeral_decimal v).oneLine

/-- A formula stays on its line. -/
theorem oneLine_textWith {access : String} (h : OneLine access) (e : Formula) :
    OneLine (e.textWith access) := by
  induction e with
  | integer v => exact oneLine_int v
  | decimal v => exact oneLine_decimal v
  | column n => exact h
  | apply f e ih =>
      have hname : OneLine f.routineName := by cases f <;> exact oneLine_lit rfl
      exact ((hname.append (oneLine_lit rfl)).append ih).append (oneLine_lit rfl)
  | binary op l r ihl ihr =>
      have hsymbol : OneLine op.symbol := by cases op <;> exact oneLine_lit rfl
      exact ((((((oneLine_lit rfl).append ihl).append (oneLine_lit rfl)).append hsymbol).append
        (oneLine_lit rfl)).append ihr).append (oneLine_lit rfl)

/-! ### Programs -/

/-- The lines of routines, with a blank line after each. -/
def routinesLines (rs : Routines) : List Line :=
  rs.list.flatMap fun r => routineLines r ++ [.blank]

theorem routinesText_eq (rs : Routines) : routinesText rs = text (routinesLines rs) := by
  unfold routinesText routinesLines
  induction rs.list with
  | nil => rfl
  | cons r rs ih =>
      rw [List.map_cons, String.join_cons, ih, List.flatMap_cons, text_append, text_append]
      rfl

theorem ofProgram_eq_ok {p : Program} {t : String} (h : ofProgram p = .ok t) :
    ∃ create, construction p = .ok create ∧
      t = text (routinesLines p.routines ++ create ++ .blank :: driver p) := by
  unfold ofProgram at h
  dsimp only at h
  split at h
  · cases h
  · rw [bind_eq_ok] at h
    obtain ⟨create, hcreate, h⟩ := h
    refine ⟨create, hcreate, ?_⟩
    rw [← pure_eq_ok.1 h, routinesText_eq, text_append, text_append, text_cons, String.append_assoc]
    rfl

theorem construction_eq_ok {p : Program} {create : List Line} (h : construction p = .ok create) :
    ∃ lss, p.steps.mapM (stepLines p.transient) = .ok lss ∧
      create = block "embedDBOperator* createOperator(embedDBState* state, void*** allocatedValues)"
        (lss.flatten ++ handOverLines p) := by
  unfold construction at h
  simp only [bind_eq_ok, pure_eq_ok] at h
  obtain ⟨lss, hlss, rfl⟩ := h
  exact ⟨lss, hlss, rfl⟩

/-- **The lines of a program are those of its routines and of its two procedures**, if each of these
stays on its line. -/
theorem statements_of_ofProgram {p : Program} {t : String} (h : ofProgram p = .ok t) :
    ∃ create, construction p = .ok create ∧
      ((∀ l ∈ routinesLines p.routines, l.OneLine) → (∀ l ∈ create, l.OneLine) →
        (∀ l ∈ driver p, l.OneLine) → statements t
          = (routinesLines p.routines).map Line.statement
            ++ create.map Line.statement ++ "" :: (driver p).map Line.statement ++ [""]) := by
  obtain ⟨create, hcreate, rfl⟩ := ofProgram_eq_ok h
  refine ⟨create, hcreate, fun hroutines hcreate hdriver => ?_⟩
  have hall : ∀ l ∈ routinesLines p.routines ++ create ++ .blank :: driver p, l.OneLine :=
    List.forall_mem_append.2 ⟨List.forall_mem_append.2 ⟨hroutines, hcreate⟩,
      List.forall_mem_cons.2 ⟨trivial, hdriver⟩⟩
  have hlines := statements_text hall ""
  rw [String.append_empty] at hlines
  rw [hlines, List.map_append, List.map_append]
  rfl

end Listing

end SqlPipeline
