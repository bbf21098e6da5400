/-
**Which statements a session compiles.**

A session looks at the first word of a statement, up to the first blank, and compiles the statement
if the word is `SELECT` or `WITH`; any other is applied to the catalog.  The reader of SQL cuts the
text into tokens, and a word ends there with the first character that cannot go on it.  Here the two
are compared.  What the session compiles is a query for the reader too, so definitions are never
compiled.  The converse fails: a query is applied to the catalog, and refused, if anything but
blanks stands before its keyword, or anything but a blank after it.

Main definitions:

* `Session.LeadsQuery` — a text begins with a keyword of queries between blanks;
* `Session.Compiles`, `Session.Applies` — what executing a statement comes to, in either way.

Main results:

* `Session.isQuery_iff` — a statement is compiled exactly if it begins so;
* `Sql.tokensFrom_keyword` — its tokens then begin with the keyword;
* `Session.exists_query_of_leadsQuery` — and it is read as a query;
* `Session.routing` — **definitions are applied, and a query is compiled exactly if its keyword
  stands between blanks**.
-/

import SqlPipeline.Proofs.Identifiers
import SqlPipeline.Proofs.NameCase
import SqlPipeline.Proofs.Scripts
import SqlPipeline.Session

set_option autoImplicit false

namespace SqlPipeline

/-! ### Characters -/

namespace Text

theorem toNat_of_isAlpha {c : Char} (h : c.isAlpha = true) : 65 ≤ c.toNat ∧ c.toNat ≤ 122 := by
  simp only [Char.isAlpha, Char.isUpper, Char.isLower, Bool.or_eq_true, Bool.and_eq_true,
    decide_eq_true_eq, UInt32.le_iff_toNat_le, ge_iff_le] at h
  have hc : c.val.toNat = c.toNat := rfl
  simp only [hc, Char.reduceVal, UInt32.reduceToNat] at h
  omega

theorem isBlank_of_isAlpha {c : Char} (h : c.isAlpha = true) : isBlank c = false := by
  have hc := toNat_of_isAlpha h
  simp only [isBlank, Bool.or_eq_false_iff, Bool.and_eq_false_iff, decide_eq_false_iff_not,
    beq_eq_false_iff_ne]
  omega

/-- The numbers of the blanks. -/
def blankNumbers : List Nat :=
  [9, 10, 11, 12, 13, 0x20, 0x85, 0xA0, 0x1680, 0x2000, 0x2001, 0x2002, 0x2003, 0x2004, 0x2005,
   0x2006, 0x2007, 0x2008, 0x2009, 0x200A, 0x2028, 0x2029, 0x202F, 0x205F, 0x3000]

theorem mem_blankNumbers {c : Char} (h : isBlank c = true) : c.toNat ∈ blankNumbers := by
  simp only [isBlank, Bool.or_eq_true, Bool.and_eq_true, decide_eq_true_eq, beq_iff_eq] at h
  simp only [blankNumbers, List.mem_cons, List.not_mem_nil, or_false]
  omega

/-- No blank can go on a word. -/
theorem continuesWord_of_isBlank {c : Char} (h : isBlank c = true) :
    Sql.continuesWord c = false := by
  have hall : ∀ n ∈ blankNumbers, Sql.continuesWord (Char.ofNat n) = false := by
    decide +kernel
  have hc := hall _ (mem_blankNumbers h)
  rwa [Char.ofNat_toNat] at hc

section

variable {word : List Char} {k : String}

/-- A text with the letters of a keyword has letters only. -/
theorem isAlpha_of_lower (h : lower (String.ofList word) = k)
    (hk : ∀ c ∈ k.toList, c.isAlpha = true) : ∀ c ∈ word, c.isAlpha = true := by
  intro c hc
  rw [← Char.isAlpha_toLower_eq_isAlpha]
  refine hk _ ?_
  rw [← h, toList_lower, String.toList_ofList]
  exact List.mem_map_of_mem hc

theorem toLower_of_lower {c d : Char} {cs ds : List Char}
    (h : lower (String.ofList (c :: cs)) = String.ofList (d :: ds)) : c.toLower = d := by
  have hchars := congrArg String.toList h
  rw [toList_lower, String.toList_ofList, String.toList_ofList, List.map_cons] at hchars
  exact (List.cons.inj hchars).1

/-- In capital letters, a text is the keyword of its letters. -/
theorem capital_of_lower (h : lower (String.ofList word) = k)
    (hk : ∀ c ∈ k.toList, c.isAlpha = true) :
    Sql.capital (String.ofList word) = String.ofList (k.toList.map Char.toUpper) := by
  have halpha := isAlpha_of_lower h hk
  rw [← h, toList_lower, String.toList_ofList, List.map_map, Sql.capital, String.toList_ofList]
  congr 1
  clear h
  induction word with
  | nil => rfl
  | cons c word ih =>
      have hc := (toNat_of_isAlpha (halpha c List.mem_cons_self)).2
      rw [List.flatMap_cons, ih fun d hd => halpha d (List.mem_cons_of_mem c hd), Sql.capitals,
        if_pos (by omega), List.map_cons, Function.comp_apply, Char.toUpper_toLower_eq_toUpper]
      rfl

end

/-! ### The first word -/

/-- A blank ends a word that has begun. -/
theorem head?_wordsFrom (run cs : List Char) (h : run ≠ []) :
    (wordsFrom run cs).head?
      = some (String.ofList (run.reverse ++ cs.takeWhile fun c => !isBlank c)) := by
  induction cs generalizing run with
  | nil => simp [wordsFrom, h]
  | cons c cs ih =>
      by_cases hc : isBlank c = true
      · simp [wordsFrom, h, hc]
      · rw [wordsFrom, if_neg hc, ih (c :: run) (List.cons_ne_nil c run)]
        simp [hc]

/-- The first run of characters that are not blank. -/
def firstRun (cs : List Char) : List Char :=
  (cs.dropWhile isBlank).takeWhile fun c => !isBlank c

theorem head?_words (s : String) :
    (words s).head?
      = if firstRun s.toList = [] then none else some (String.ofList (firstRun s.toList)) := by
  unfold words
  induction s.toList with
  | nil => rfl
  | cons c cs ih =>
      by_cases hc : isBlank c = true
      · rw [wordsFrom, if_pos hc, firstRun, List.dropWhile_cons_of_pos hc]
        exact ih
      · rw [wordsFrom, if_neg hc, head?_wordsFrom _ _ (by simp), firstRun,
          List.dropWhile_cons_of_neg hc, List.takeWhile_cons_of_pos (by simpa using hc)]
        rfl

/-- The first run of a text that is cut into blanks, a word and a rest is the word. -/
theorem firstRun_append {blanks word rest : List Char} (hne : word ≠ [])
    (hblanks : ∀ c ∈ blanks, isBlank c = true) (hword : ∀ c ∈ word, isBlank c = false)
    (hrest : ∀ c ∈ rest.head?, isBlank c = true) : firstRun (blanks ++ word ++ rest) = word := by
  have hdrop : (word ++ rest).dropWhile isBlank = word ++ rest := by
    obtain ⟨c, word, rfl⟩ := List.exists_cons_of_ne_nil hne
    exact List.dropWhile_cons_of_neg (by simp [hword c List.mem_cons_self])
  have hstop : rest.takeWhile (fun c => !isBlank c) = [] := by
    cases rest with
    | nil => rfl
    | cons c rest => exact List.takeWhile_cons_of_neg (by simp [hrest c rfl])
  rw [firstRun, List.append_assoc, List.dropWhile_append_of_pos hblanks, hdrop,
    List.takeWhile_append_of_pos (by simpa using hword), hstop, List.append_nil]

end Text

namespace Session

/-- A text begins with a keyword of queries between blanks: nothing but blanks stands before it,
and a blank or nothing after it. -/
def LeadsQuery (text : String) : Prop :=
  ∃ blanks word rest, text.toList = blanks ++ word ++ rest ∧
    (∀ c ∈ blanks, Text.isBlank c = true) ∧
    (Text.lower (String.ofList word) = "select" ∨ Text.lower (String.ofList word) = "with") ∧
    ∀ c ∈ rest.head?, Text.isBlank c = true

/-- The letters of the keywords. -/
theorem isAlpha_of_keyword {k : String} (h : k = "select" ∨ k = "with") :
    ∀ c ∈ k.toList, c.isAlpha = true := by
  have hall : k.toList.all Char.isAlpha = true := by
    rcases h with rfl | rfl <;> decide +kernel
  exact List.all_eq_true.1 hall

theorem ne_nil_of_keyword {word : List Char}
    (h : Text.lower (String.ofList word) = "select" ∨ Text.lower (String.ofList word) = "with") :
    word ≠ [] := by
  rintro rfl
  revert h
  decide +kernel

theorem isQuery_eq_true {text : String} :
    isQuery text = true ↔
      Text.lower (String.ofList (Text.firstRun text.toList)) = "select" ∨
        Text.lower (String.ofList (Text.firstRun text.toList)) = "with" := by
  have hselect : Text.lower "select" = "select" := by decide +kernel
  have hwith : Text.lower "with" = "with" := by decide +kernel
  unfold isQuery
  rw [Text.head?_words]
  by_cases hrun : Text.firstRun text.toList = []
  · rw [if_pos hrun, hrun]
    decide +kernel
  · rw [if_neg hrun]
    simp only [Bool.or_eq_true, Text.sameName_iff, hselect, hwith]

/-- **A statement is compiled exactly if it begins with a keyword of queries between blanks.** -/
theorem isQuery_iff {text : String} : isQuery text = true ↔ LeadsQuery text := by
  rw [isQuery_eq_true]
  constructor
  · intro h
    refine ⟨text.toList.takeWhile Text.isBlank, Text.firstRun text.toList,
      (text.toList.dropWhile Text.isBlank).dropWhile fun c => !Text.isBlank c, ?_, ?_, h, ?_⟩
    · rw [Text.firstRun, List.append_assoc, List.takeWhile_append_dropWhile,
        List.takeWhile_append_dropWhile]
    · intro c hc
      exact List.mem_takeWhile_imp hc
    · intro c hc
      have hstop := List.head?_dropWhile_not (fun c => !Text.isBlank c)
        (text.toList.dropWhile Text.isBlank)
      rw [Option.mem_def.1 hc] at hstop
      simpa using hstop
  · rintro ⟨blanks, word, rest, htext, hblanks, hword, hrest⟩
    have hletters := Text.isAlpha_of_lower rfl (isAlpha_of_keyword hword)
    rw [htext, Text.firstRun_append (ne_nil_of_keyword hword) hblanks
      (fun c hc => Text.isBlank_of_isAlpha (hletters c hc)) hrest]
    exact hword

theorem isQuery_eq_false {text : String} : isQuery text = false ↔ ¬ LeadsQuery text := by
  rw [Bool.eq_false_iff, ne_eq, isQuery_iff]

end Session

namespace Sql

/-! ### Tokens -/

theorem lexStep_blank {c : Char} (h : Text.isBlank c = true) (cs : List Char) :
    lexStep (c :: cs) = some (none, cs) := by
  simp only [lexStep, h, if_true]

/-- A letter that no literal begins with begins a word. -/
theorem letterToken_of_toUpper {c : Char} (h : c.toUpper = 'S' ∨ c.toUpper = 'W')
    (cs : List Char) : letterToken c cs = some (wordToken [c] cs) := by
  unfold letterToken
  split
  case h_9 => rfl
  all_goals
    next hc => exact absurd h (by rw [hc]; decide)

theorem lexStep_letter {c : Char} (halpha : c.isAlpha = true)
    (h : c.toUpper = 'S' ∨ c.toUpper = 'W') (cs : List Char) :
    lexStep (c :: cs)
      = some (some (.word (String.ofList (c :: cs.takeWhile continuesWord)) none),
          cs.dropWhile continuesWord) := by
  have hstarts : startsWord c = true := by simp [startsWord, Text.isLetter_of_isAlpha halpha]
  simp only [lexStep, Text.isBlank_of_isAlpha halpha, hstarts, letterToken_of_toUpper h]
  rfl

/-- **The tokens of a text that begins with a keyword of queries between blanks begin with it.** -/
theorem tokensFrom_keyword {fuel : Nat} {blanks word rest : List Char} {ts : List Token}
    (hblanks : ∀ c ∈ blanks, Text.isBlank c = true)
    (hword : Text.lower (String.ofList word) = "select" ∨ Text.lower (String.ofList word) = "with")
    (hrest : ∀ c ∈ rest.head?, Text.isBlank c = true)
    (h : tokensFrom fuel (blanks ++ word ++ rest) = some ts) :
    ∃ ts', ts = .word (String.ofList word) none :: ts' := by
  induction blanks generalizing fuel with
  | cons b blanks ih =>
      cases fuel with
      | zero => cases h
      | succ fuel =>
          have hb := lexStep_blank (hblanks b List.mem_cons_self)
          simp only [List.cons_append, tokensFrom, hb] at h
          exact ih (fun c hc => hblanks c (List.mem_cons_of_mem b hc)) h
  | nil =>
      have hletters := Text.isAlpha_of_lower rfl (Session.isAlpha_of_keyword hword)
      obtain ⟨c, letters, rfl⟩ := List.exists_cons_of_ne_nil (Session.ne_nil_of_keyword hword)
      have hcapital : c.toUpper = 'S' ∨ c.toUpper = 'W' := by
        rw [← Char.toUpper_toLower_eq_toUpper]
        rcases hword with hk | hk
        · rw [Text.toLower_of_lower hk]
          exact .inl rfl
        · rw [Text.toLower_of_lower hk]
          exact .inr rfl
      have hgoesOn : ∀ d ∈ letters, continuesWord d = true := by
        intro d hd
        simp [continuesWord, Text.isLetter_of_isAlpha (hletters d (List.mem_cons_of_mem c hd))]
      have hstop : rest.takeWhile continuesWord = [] := by
        cases rest with
        | nil => rfl
        | cons d rest =>
            exact List.takeWhile_cons_of_neg (by simp [Text.continuesWord_of_isBlank (hrest d rfl)])
      cases fuel with
      | zero => cases h
      | succ fuel =>
          simp only [List.nil_append, List.cons_append, tokensFrom,
            lexStep_letter (hletters c List.mem_cons_self) hcapital,
            List.takeWhile_append_of_pos hgoesOn, hstop, List.append_nil] at h
          obtain ⟨ts', -, rfl⟩ := Option.map_eq_some_iff.1 h
          exact ⟨ts', rfl⟩

/-! ### Statements -/

theorem Reader.bind_eq_ok {α β : Type} {x : Reader α} {f : α → Reader β} {place : Place}
    {ts ts' : List Token} {b : β} :
    (x >>= f) place ts = .ok (b, ts') ↔
      ∃ a ts₁, x place ts = .ok (a, ts₁) ∧ f a place ts₁ = .ok (b, ts') := by
  show (x place ts >>= fun r => f r.1 place r.2) = .ok (b, ts') ↔ _
  rw [Outcome.bind_eq_ok]
  exact Prod.exists

theorem Reader.symbol?_of_ne {s : String} {t : Token} (ht : t ≠ .symbol s) (place : Place)
    (ts : List Token) : symbol? s place (t :: ts) = .ok (false, t :: ts) := by
  show (if (t == .symbol s) = true then (do set ts; return true : Reader Bool)
    else return false) place (t :: ts) = _
  rw [if_neg (by simpa using ht)]
  rfl

theorem Reader.while?_of_none {α : Type} {p : Reader (Option α)} {place : Place}
    {ts : List Token} (h : p place ts = .ok (none, ts)) : while? p place ts = .ok ([], ts) :=
  bind_eq_ok.2 ⟨ts, ts, rfl, bind_eq_ok.2 ⟨none, ts, h, rfl⟩⟩

/-- The first statement is read from the first token on, if that is no semicolon. -/
theorem Nested.head_statementsUpTo {n : Nested} {fuel : Nat} {place : Place} {t : Token}
    {ts ts' : List Token} {sts : List Statement} (ht : t ≠ .symbol ";")
    (h : n.statementsUpTo (fuel + 1) place (t :: ts) = .ok (sts, ts')) :
    ∃ st rest ts₁, sts = st :: rest ∧ n.statement place (t :: ts) = .ok (st, ts₁) := by
  have hskip : Reader.while? (do
      if ← Reader.symbol? ";" then return some () else return none) place (t :: ts)
      = .ok ([], t :: ts) :=
    Reader.while?_of_none
      (Reader.bind_eq_ok.2 ⟨false, t :: ts, Reader.symbol?_of_ne ht place ts, rfl⟩)
  rw [statementsUpTo] at h
  obtain ⟨skipped, ts₀, hstay, h⟩ := Reader.bind_eq_ok.1 h
  cases hskip.symm.trans hstay
  obtain ⟨_, _, hget, h⟩ := Reader.bind_eq_ok.1 h
  cases hget
  rw [if_neg (by simp)] at h
  obtain ⟨st, ts₁, hst, h⟩ := Reader.bind_eq_ok.1 h
  obtain ⟨_, _, hget, h⟩ := Reader.bind_eq_ok.1 h
  cases hget
  -- whatever follows, the statement is the first of the list
  split at h
  · cases h
    exact ⟨st, [], _, rfl, hst⟩
  · obtain ⟨ends, ts₂, -, h⟩ := Reader.bind_eq_ok.1 h
    split at h
    · cases h
      exact ⟨st, [], _, rfl, hst⟩
    · obtain ⟨goesOn, ts₃, -, h⟩ := Reader.bind_eq_ok.1 h
      split at h
      · obtain ⟨rest, ts₄, -, h⟩ := Reader.bind_eq_ok.1 h
        cases h
        exact ⟨st, rest, _, rfl, hst⟩
      · cases h

/-- Tokens that begin with a keyword of queries are read as a query, if at all. -/
theorem exists_query_of_keyword {n : Nested} {place : Place} {v : String} {ts ts' : List Token}
    {st : Statement} (hv : capital v = "SELECT" ∨ capital v = "WITH")
    (h : statementAt n place (.word v none :: ts) = .ok (st, ts')) :
    ∃ q shown, st = .query q shown := by
  have hpeek : Reader.peekOneOf ["SELECT", "WITH", "VALUES"] place (.word v none :: ts)
      = .ok (true, .word v none :: ts) := by
    show Except.ok ((["SELECT", "WITH", "VALUES"] : List String).contains (capital v), _) = _
    rcases hv with hv | hv <;> rw [hv] <;> rfl
  rw [statementAt] at h
  obtain ⟨opens, ts₀, hopens, h⟩ := Reader.bind_eq_ok.1 h
  cases hopens
  obtain ⟨leads, ts₁, hleads, h⟩ := Reader.bind_eq_ok.1 h
  cases hpeek.symm.trans hleads
  rw [Bool.or_true, if_pos rfl] at h
  obtain ⟨q, ts₂, -, h⟩ := Reader.bind_eq_ok.1 h
  cases h
  exact ⟨q.value, q.text, rfl⟩

end Sql

namespace Session

open Sql

/-- **What begins with a keyword of queries between blanks is a query.** -/
theorem exists_query_of_leadsQuery {text : String} {st : Statement} (hlead : LeadsQuery text)
    (h : statements text = .ok [st]) : ∃ q shown, st = .query q shown := by
  obtain ⟨blanks, word, rest, htext, hblanks, hword, hrest⟩ := hlead
  unfold statements at h
  cases htokens : tokens? text with
  | none =>
      rw [htokens] at h
      cases h
  | some ts =>
      rw [htokens] at h
      rw [tokens?, htext] at htokens
      obtain ⟨ts', rfl⟩ := tokensFrom_keyword hblanks hword hrest htokens
      have hcapital : capital (String.ofList word) = "SELECT" ∨
          capital (String.ofList word) = "WITH" := by
        rw [Text.capital_of_lower rfl (isAlpha_of_keyword hword)]
        rcases hword with hk | hk <;> rw [hk]
        · exact .inl (by decide +kernel)
        · exact .inr (by decide +kernel)
      obtain ⟨⟨sts, ts''⟩, hsts, hone⟩ := Outcome.map_eq_ok.1 h
      obtain rfl : sts = [st] := hone
      obtain ⟨_, _, hget, hsts⟩ := Reader.bind_eq_ok.1 hsts
      cases hget
      obtain ⟨st', rest', ts₁, hlist, hst⟩ := Nested.head_statementsUpTo (by simp) hsts
      cases hlist
      exact exists_query_of_keyword hcapital hst

/-! ### Executing a statement -/

/-- What executing a statement comes to if it is compiled: the reader gets the listing or the
message of a fault, and the catalog stays. -/
structure Compiles (catalog : Catalog.Store) (explained : Bool) (text : String)
    (result : Catalog.Store × List Emission) : Prop where
  catalog_eq : result.1 = catalog
  listing : ∀ out, (compileStatement catalog text explained).run.value = .ok out →
    Emission.outText result.2 = out ∧ Emission.errText result.2 = ""
  fault : ∀ f, (compileStatement catalog text explained).run.value = .error f →
    Emission.outText result.2 = "" ∧ Emission.errText result.2 = f.text ++ "\n"

/-- What executing a statement comes to if it is applied to the catalog: the reader is told about
the change, or gets the message of a fault, and then the catalog stays. -/
structure Applies (catalog : Catalog.Store) (st : Statement)
    (result : Catalog.Store × List Emission) : Prop where
  taken : ∀ change catalog', catalog.apply st = (.ok change, catalog') →
    result.1 = catalog' ∧ Emission.outText result.2 = changeLine change ∧
      Emission.errText result.2 = ""
  refused : ∀ f, (catalog.apply st).1 = .error f →
    result.1 = catalog ∧ Emission.outText result.2 = "" ∧
      Emission.errText result.2 = f.code ++ ": " ++ f.message ++ "\n"

theorem outText_log (rs : List Journal.Record) (es : List Emission) :
    Emission.outText (rs.map .log ++ es) = Emission.outText es := by
  simp [Emission.outText, List.filterMap_map]

theorem errText_log (rs : List Journal.Record) (es : List Emission) :
    Emission.errText (rs.map .log ++ es) = Emission.errText es := by
  simp [Emission.errText, List.filterMap_map]

variable (catalog : Catalog.Store) (explained : Bool) {text : String} {st : Statement}

theorem compiles_of_isQuery (h : isQuery text = true) :
    Compiles catalog explained text (execute catalog explained text) := by
  unfold execute
  rw [if_pos h]
  constructor
  case catalog_eq => rfl
  case listing =>
    intro out hout
    simp only [hout, outText_log, errText_log]
    simp [Emission.outText, Emission.errText]
  case fault =>
    intro f hf
    simp only [hf, outText_log, errText_log]
    simp [Emission.outText, Emission.errText]

theorem applies_of_not_isQuery (h : isQuery text = false) (hst : statements text = .ok [st]) :
    Applies catalog st (execute catalog explained text) := by
  have hvalue := Catalog.Store.execute_eq_alone hst catalog
  unfold execute
  rw [if_neg (by simp [h])]
  constructor
  case taken =>
    intro change catalog' happly
    rw [Catalog.Store.alone_of_ok happly] at hvalue
    simp only [hvalue, outText_log, errText_log]
    simp [Emission.outText, Emission.errText]
  case refused =>
    intro f hfault
    have happly := Catalog.Store.apply_eq_error.2 ⟨Catalog.Store.refuses_of_apply hfault, rfl⟩
    rw [Catalog.Store.alone_of_error happly] at hvalue
    simp only [hvalue, outText_log, errText_log]
    simp [Emission.outText, Emission.errText]

/-- What the reader is told about a query that is applied to the catalog. -/
theorem unsupported_text (shown : String) :
    let f := Catalog.Fault.unsupported (.statement (Catalog.firstWords shown))
    f.code ++ ": " ++ f.message ++ "\n"
      = "EMBEDDB_CATALOG_UNSUPPORTED: Unsupported DDL: " ++ Catalog.firstWords shown ++ "\n" := by
  have hlit : "EMBEDDB_CATALOG_UNSUPPORTED" ++ ": " ++ "Unsupported DDL: "
      = "EMBEDDB_CATALOG_UNSUPPORTED: Unsupported DDL: " := by decide +kernel
  show "EMBEDDB_CATALOG_UNSUPPORTED" ++ ": "
    ++ ("Unsupported DDL: " ++ Catalog.firstWords shown) ++ "\n" = _
  rw [← String.append_assoc, hlit]

/-- **Definitions are applied, and a query is compiled exactly if its keyword stands between
blanks.**  A text that is read as one query is compiled if it begins with `SELECT` or `WITH` in any
case, after nothing but blanks and before a blank; otherwise the catalog refuses it, with the first
words of the query in the message.  A text that is read as one statement of another kind is applied
to the catalog, whatever it looks like. -/
theorem routing (h : statements text = .ok [st]) :
    (∀ q shown, st = .query q shown →
      (isQuery text = true ↔ LeadsQuery text) ∧
      (LeadsQuery text → Compiles catalog explained text (execute catalog explained text)) ∧
      (¬ LeadsQuery text →
        (execute catalog explained text).1 = catalog ∧
        Emission.outText (execute catalog explained text).2 = "" ∧
        Emission.errText (execute catalog explained text).2
          = "EMBEDDB_CATALOG_UNSUPPORTED: Unsupported DDL: " ++ Catalog.firstWords shown ++ "\n")) ∧
    ((∀ q shown, st ≠ .query q shown) →
      isQuery text = false ∧ Applies catalog st (execute catalog explained text)) := by
  constructor
  · rintro q shown rfl
    refine ⟨isQuery_iff, ?_, ?_⟩
    · intro hlead
      exact compiles_of_isQuery catalog explained (isQuery_iff.2 hlead)
    · intro hlead
      have happlies := applies_of_not_isQuery catalog explained (isQuery_eq_false.2 hlead) h
      obtain ⟨hcatalog, hout, herr⟩ := happlies.refused _ rfl
      exact ⟨hcatalog, hout, herr.trans (unsupported_text shown)⟩
  · intro hother
    have hnot : isQuery text = false := by
      rw [isQuery_eq_false]
      intro hlead
      obtain ⟨q, shown, hst⟩ := exists_query_of_leadsQuery hlead h
      exact hother q shown hst
    exact ⟨hnot, applies_of_not_isQuery catalog explained hnot h⟩

/-- A query without blanks around its star, over one table. -/
def tightText : String :=
  "SELECT*FROM shed"

/-- The query of a text that selects items from the table and nothing else. -/
def plainQuery (items : List SelectItem) : Sql.Query where
  named := false
  body := .select {
    distinct := false
    items
    sources := [⟨.table [⟨"shed", none⟩] none, []⟩]
    selection := none
    grouping := .exprs []
    having := none }
  orderBy := []
  limited := false

/-- A keyword in small letters between other blanks than spaces, and a column that there is not. -/
def tabbedText : String :=
  "\tselect\nrain from shed"

/-- The statement of this text. -/
def tabbed : Statement :=
  .query (plainQuery [.expr (.ident ⟨"rain", none⟩) none]) "SELECT rain FROM shed"

/-- A definition that begins with a tab. -/
def hutText : String :=
  "\tcreate table hut (a INT)"

/-- The query is compiled, and the compiler refuses it; the definition is applied. -/
theorem routing_tabbedText :
    (statements tabbedText = .ok [tabbed] ∧ isQuery tabbedText = true ∧
      (execute shedCatalog false tabbedText).1 = shedCatalog ∧
      Emission.outText (execute shedCatalog false tabbedText).2 = "" ∧
      Emission.errText (execute shedCatalog false tabbedText).2
        = "EMBEDDB_UNKNOWN_COLUMN: Column 'rain' not found in table 'shed'\n") ∧
    statements hutText = .ok [Catalog.Store.narrowTable "hut" "a"] ∧ isQuery hutText = false ∧
      (execute shedCatalog false hutText).1
        = shedCatalog.put ⟨"hut", [⟨"a", .int32⟩], none, []⟩ ∧
      Emission.outText (execute shedCatalog false hutText).2 = "Table hut created.\n" ∧
      Emission.errText (execute shedCatalog false hutText).2 = "" := by
  have hquery : statements tabbedText = .ok [tabbed] := by decide +kernel
  have hdefinition : statements hutText = .ok [Catalog.Store.narrowTable "hut" "a"] := by
    decide +kernel
  constructor
  · obtain ⟨hiff, hcompiles, -⟩ := (routing shedCatalog false hquery).1 _ _ rfl
    have hasked : isQuery tabbedText = true := by decide +kernel
    obtain ⟨hcatalog, -, hfault⟩ := hcompiles (hiff.1 hasked)
    obtain ⟨hout, herr⟩ := hfault (.unknownColumn "rain" "shed") (by decide +kernel)
    exact ⟨hquery, hasked, hcatalog, hout, herr.trans (by decide +kernel)⟩
  · obtain ⟨hnot, happlies⟩ := (routing shedCatalog false hdefinition).2 fun _ _ h => by cases h
    obtain ⟨hcatalog, hout, herr⟩ := happlies.taken (.tableCreated "hut") _ rfl
    exact ⟨hdefinition, hnot, hcatalog, hout.trans (by decide +kernel), herr⟩

/-- A query is refused by the catalog because a star follows its keyword. -/
theorem unspaced_query_refused :
    ∃ shown, statements tightText = .ok [.query (plainQuery [.star []]) shown] ∧
      isQuery tightText = false ∧
      Emission.errText (execute shedCatalog false tightText).2
        = "EMBEDDB_CATALOG_UNSUPPORTED: Unsupported DDL: SELECT *\n" :=
  ⟨"SELECT * FROM shed", by decide +kernel, by decide +kernel, by decide +kernel⟩

end Session

end SqlPipeline
