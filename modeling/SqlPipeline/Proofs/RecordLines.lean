/-
**Records can be read back from their lines.**

A record is written as one line, a JSON object whose texts are escaped.  Whatever characters an
event, a key or a detail has, the line break that ends the line is its only one, and reading the
line gives the members that were written, in their order.  The fields are sorted by their keys, so
where these differ the line does not depend on the order in which the fields were given.

Main definitions:

* `Journal.Record.members` — what the line of a record says: the event, the level, and the fields
  in the order of their keys;
* `Journal.Record.body` — the line of a record without its line break;
* `Journal.Record.Canonical` — the line has one form, and the record can be read back from it.

Main results:

* `Json.stringFrom_escapeChar`, `Json.string?_escaped` — a string is read back;
* `Json.members?_texts` — so are the members of an object;
* `Journal.Record.oneLine_body` — a record takes one line;
* `Journal.Record.read?_body` — **the line of a record says what the record says**;
* `Journal.Record.orderedFields_of_perm` — the order of fields with different keys does not matter;
* `Journal.Record.canonical_of_keys` — **records with different keys are canonical**.
-/

import Mathlib.Data.List.Basic
import Mathlib.Tactic.Common
import SqlPipeline.Journal.Record
import SqlPipeline.Json.Value

set_option autoImplicit false

namespace SqlPipeline

namespace Json

/-! ### Strings -/

theorem hexValue?_hexDigit : ∀ n < 16, Text.hexValue? (hexDigit n) = some n := by
  decide

theorem unit?_hexDigits {n : Nat} (h : n < 32) (cs : List Char) :
    unit? ('0' :: '0' :: hexDigit (n / 16) :: hexDigit (n % 16) :: cs) = some (n, cs) := by
  have hzero : Text.hexValue? '0' = some 0 := by decide
  have hhigh := hexValue?_hexDigit (n / 16) (by omega)
  have hlow := hexValue?_hexDigit (n % 16) (by omega)
  have hn : n / 16 * 16 + n % 16 = n := by omega
  simp [unit?, hzero, hhigh, hlow, hn]

/-- **The three ways to escape a character**: by a letter, by its number, or not at all. -/
theorem escapeChar_cases (c : Char) :
    (∃ e, escapeChar c = ['\\', e] ∧ e ≠ 'u' ∧ escape? e = some c) ∨
    (c.toNat < 32 ∧ escapeChar c =
      ['\\', 'u', '0', '0', hexDigit (c.toNat / 16), hexDigit (c.toNat % 16)]) ∨
    (c ≠ '"' ∧ c ≠ '\\' ∧ 32 ≤ c.toNat ∧ escapeChar c = [c]) := by
  have hofNat : ∀ n, c.toNat = n → c = Char.ofNat n := by
    rintro n rfl
    exact (Char.ofNat_toNat c).symm
  -- the seven characters that have a letter
  by_cases hquote : c = '"'
  · exact .inl ⟨'"', by rw [hquote]; rfl, by decide, by rw [hquote]; rfl⟩
  by_cases hslash : c = '\\'
  · exact .inl ⟨'\\', by rw [hslash]; rfl, by decide, by rw [hslash]; rfl⟩
  by_cases hnewline : c = '\n'
  · exact .inl ⟨'n', by rw [hnewline]; rfl, by decide, by rw [hnewline]; rfl⟩
  by_cases hreturn : c = '\r'
  · exact .inl ⟨'r', by rw [hreturn]; rfl, by decide, by rw [hreturn]; rfl⟩
  by_cases htab : c = '\t'
  · exact .inl ⟨'t', by rw [htab]; rfl, by decide, by rw [htab]; rfl⟩
  by_cases hback : c.toNat = 8
  · exact .inl ⟨'b', by rw [hofNat 8 hback]; rfl, by decide, by rw [hofNat 8 hback]; rfl⟩
  by_cases hfeed : c.toNat = 12
  · exact .inl ⟨'f', by rw [hofNat 12 hfeed]; rfl, by decide, by rw [hofNat 12 hfeed]; rfl⟩
  have hrest : escapeChar c = if c.toNat < 32 then
      ['\\', 'u', '0', '0', hexDigit (c.toNat / 16), hexDigit (c.toNat % 16)] else [c] := by
    simp [escapeChar, hquote, hslash, hnewline, hreturn, htab, hback, hfeed]
  by_cases hc : c.toNat < 32
  · exact .inr (.inl ⟨hc, by rw [hrest, if_pos hc]⟩)
  · exact .inr (.inr ⟨hquote, hslash, by omega, by rw [hrest, if_neg hc]⟩)

/-- A character is read back as it was before it was escaped. -/
theorem stringFrom_escapeChar (fuel : Nat) (read : List Char) (c : Char) (cs : List Char) :
    stringFrom (fuel + 1) (some read) (escapeChar c ++ cs) =
      stringFrom fuel (some (c :: read)) cs := by
  rcases escapeChar_cases c with ⟨e, h, he, hc⟩ | ⟨hc, h⟩ | ⟨hquote, hslash, hc, h⟩
  · rw [h, List.cons_append, List.cons_append, List.nil_append, stringFrom]
    · rw [hc]
      rfl
    · exact he
  · have hhigh : isHigh c.toNat = false := by simp [isHigh]; omega
    have hlow : isLow c.toNat = false := by simp [isLow]; omega
    rw [h]
    simp only [List.cons_append, List.nil_append, stringFrom, unit?_hexDigits hc,
      Option.bind_eq_bind, Option.bind_some, hhigh, hlow, Bool.false_eq_true, if_false,
      Option.map_some, Char.ofNat_toNat]
  · rw [h, List.cons_append, List.nil_append, stringFrom]
    · rw [if_neg (by omega)]
      rfl
    · exact hquote
    all_goals
      intros
      contradiction

theorem escapeChar_ne_nil (c : Char) : 1 ≤ (escapeChar c).length := by
  rcases escapeChar_cases c with ⟨e, h, -, -⟩ | ⟨-, h⟩ | ⟨-, -, -, h⟩ <;> simp [h]

/-- What is written for each element takes a character at least. -/
theorem length_le_written {α : Type} {f : α → List Char} (hf : ∀ a, 1 ≤ (f a).length)
    (as : List α) : as.length ≤ (as.flatMap f).length := by
  induction as with
  | nil => exact Nat.le_refl _
  | cons a as ih =>
      have := hf a
      simp only [List.flatMap_cons, List.length_append, List.length_cons]
      omega

theorem stringFrom_escaped (cs rest : List Char) (read : List Char) {fuel : Nat}
    (hfuel : cs.length < fuel) :
    stringFrom fuel (some read) (cs.flatMap escapeChar ++ '"' :: rest) =
      some (some (String.ofList (read.reverse ++ cs)), rest) := by
  induction cs generalizing read fuel with
  | nil =>
      obtain ⟨fuel, rfl⟩ := Nat.exists_eq_add_one_of_ne_zero (Nat.ne_zero_of_lt hfuel)
      simp [stringFrom]
  | cons c cs ih =>
      obtain ⟨fuel, rfl⟩ := Nat.exists_eq_add_one_of_ne_zero (Nat.ne_zero_of_lt hfuel)
      have hfuel : cs.length < fuel := Nat.lt_of_succ_lt_succ hfuel
      rw [List.flatMap_cons, List.append_assoc, stringFrom_escapeChar, ih _ hfuel]
      simp

/-- **A string is read back.** -/
theorem string?_escaped (s : String) (rest : List Char) :
    string? (s.toList.flatMap escapeChar ++ '"' :: rest) = some (some s, rest) := by
  have := length_le_written escapeChar_ne_nil s.toList
  have hfuel : s.toList.length < (s.toList.flatMap escapeChar ++ '"' :: rest).length + 1 := by
    rw [List.length_append]
    omega
  rw [string?, stringFrom_escaped s.toList rest [] hfuel]
  simp

theorem toList_quoted (s : String) :
    (quoted s).toList = '"' :: (s.toList.flatMap escapeChar ++ ['"']) := by
  simp [quoted]

/-- An escaped text stays on its line. -/
theorem newline_notMem_quoted (s : String) : '\n' ∉ (quoted s).toList := by
  have hhex : ∀ n < 16, hexDigit n ≠ '\n' := by decide
  have hchar : ∀ c, '\n' ∉ escapeChar c := by
    intro c
    rcases escapeChar_cases c with ⟨e, h, -, he⟩ | ⟨hc, h⟩ | ⟨-, -, hc, h⟩
    · have hne : e ≠ '\n' := by
        rintro rfl
        cases he
      simp [h, hne.symm]
    · have hhigh := hhex (c.toNat / 16) (by omega)
      have hlow := hhex (c.toNat % 16) (by omega)
      simp [h, hhigh.symm, hlow.symm]
    · have hne : c ≠ '\n' := by
        rintro rfl
        exact absurd hc (by decide)
      simp [h, hne.symm]
  simp [toList_quoted, hchar]

/-! ### Members of an object -/

theorem value?_quoted (fuel : Nat) (s : String) (rest : List Char) :
    value? (fuel + 1) ((quoted s).toList ++ rest) = some (.string (some s), rest) := by
  have hskip : ∀ cs : List Char, skipBlanks ('"' :: cs) = '"' :: cs := fun cs => rfl
  rw [toList_quoted, List.cons_append, List.append_assoc, value?, hskip]
  simp [string?_escaped]

/-- A member with a text, as it is written. -/
def memberText (m : String × String) : String :=
  quoted m.1 ++ ":" ++ quoted m.2

/-- A member with a text, as it is read. -/
def textMember (m : String × String) : Option String × Value :=
  (some m.1, .string (some m.2))

theorem toList_memberText (m : String × String) (rest : List Char) :
    (memberText m).toList ++ rest =
      '"' :: (m.1.toList.flatMap escapeChar ++ '"' :: ':' :: ((quoted m.2).toList ++ rest)) := by
  simp [memberText, toList_quoted]

/-- The last member of an object. -/
theorem members?_last (fuel : Nat) (m : String × String) (rest : List Char) :
    members? (fuel + 2) ((memberText m).toList ++ '\x7d' :: rest) =
      some ([textMember m], rest) := by
  rw [toList_memberText, members?]
  simp [skipBlanks, string?_escaped, value?_quoted, textMember]

/-- A member of an object that has more of them. -/
theorem members?_comma (fuel : Nat) (m : String × String) (cs : List Char)
    {ms : List (Option String × Value)} {rest : List Char}
    (h : members? (fuel + 1) cs = some (ms, rest)) :
    members? (fuel + 2) ((memberText m).toList ++ ',' :: cs) = some (textMember m :: ms, rest) := by
  rw [toList_memberText, members?]
  simp [skipBlanks, string?_escaped, value?_quoted, textMember, h]

/-- **The members of an object are read back.** -/
theorem members?_texts (m : String × String) (ms : List (String × String)) (rest : List Char)
    {fuel : Nat} (hfuel : ms.length < fuel) :
    members? (fuel + 1) ((memberText m).toList ++
        (ms.flatMap (fun m => ',' :: (memberText m).toList) ++ '\x7d' :: rest)) =
      some ((m :: ms).map textMember, rest) := by
  -- one unit of fuel for each member, and one for the text of the last
  obtain ⟨fuel, rfl⟩ := Nat.exists_eq_add_one_of_ne_zero (Nat.ne_zero_of_lt hfuel)
  induction ms generalizing m fuel with
  | nil => exact members?_last fuel m rest
  | cons m' ms ih =>
      have hfuel : ms.length < fuel := Nat.lt_of_succ_lt_succ hfuel
      obtain ⟨fuel, rfl⟩ := Nat.exists_eq_add_one_of_ne_zero (Nat.ne_zero_of_lt hfuel)
      rw [List.flatMap_cons, List.cons_append, List.cons_append, List.append_assoc]
      exact members?_comma (fuel + 1) m _ (ih m' fuel hfuel)

theorem value?_object (m : String × String) (ms : List (String × String)) (rest : List Char)
    {fuel : Nat} (hfuel : ms.length < fuel) :
    value? (fuel + 2) ('\x7b' :: ((memberText m).toList ++
        (ms.flatMap (fun m => ',' :: (memberText m).toList) ++ '\x7d' :: rest))) =
      some (.object ((m :: ms).map textMember), rest) := by
  have hmembers := members?_texts m ms rest hfuel
  rw [toList_memberText] at hmembers ⊢
  rw [value?]
  simp [skipBlanks, hmembers]

/-- **An object with texts is read back**, also if blanks follow it. -/
theorem read?_object {s : String} {m : String × String} {ms : List (String × String)}
    {blanks : List Char} (hblanks : skipBlanks blanks = [])
    (hs : s.toList = '\x7b' :: ((memberText m).toList ++
      (ms.flatMap (fun m => ',' :: (memberText m).toList) ++ '\x7d' :: blanks))) :
    read? s = some (.object ((m :: ms).map textMember)) := by
  have hfuel : ms.length < 2 * s.length := by
    have := length_le_written (f := fun m => ',' :: (memberText m).toList) (by simp) ms
    rw [← String.length_toList, hs]
    simp only [List.length_cons, List.length_append]
    omega
  rw [read?, hs, value?_object m ms blanks hfuel]
  simp [hblanks]

end Json

/-! ### Lines of records -/

namespace Journal.Record

open Json

/-- What the line of a record says: the event, the level, and the fields in the order of their
keys. -/
def members (r : Record) : Fields :=
  ("event", r.event) :: ("severity", r.severity.name) :: r.orderedFields

/-- The line of a record without its line break. -/
def body (r : Record) : String :=
  "\x7b" ++ memberText ("event", r.event)
    ++ String.join ((("severity", r.severity.name) :: r.orderedFields).map fieldText) ++ "\x7d"

theorem quoted_severity (s : Severity) : quoted s.name = "\"" ++ s.name ++ "\"" := by
  cases s <;> rfl

theorem line_eq (r : Record) : r.line = r.body ++ "\n" := by
  have hevent : "\x7b\"event\":" = "\x7b" ++ (quoted "event" ++ ":") := by rfl
  have hseverity : ",\"severity\":\"" = "," ++ (quoted "severity" ++ (":" ++ "\"")) := by rfl
  have hend : "\x7d\n" = "\x7d" ++ "\n" := by rfl
  unfold line body memberText
  rw [List.map_cons, String.join_cons, fieldText, quoted_severity, hevent, hseverity, hend]
  simp only [String.append_assoc]

theorem toList_body (r : Record) :
    r.body.toList = '\x7b' :: ((memberText ("event", r.event)).toList ++
      ((("severity", r.severity.name) :: r.orderedFields).flatMap
        (fun m => ',' :: (memberText m).toList) ++ ['\x7d'])) := by
  have hfield : ∀ m, (fieldText m).toList = ',' :: (memberText m).toList := by
    intro m
    simp [fieldText, memberText]
  simp [body, List.flatMap_map, hfield]

/-- **The line of a record says what the record says.** -/
theorem read?_body (r : Record) : read? r.body = some (.object (r.members.map textMember)) :=
  read?_object rfl r.toList_body

theorem oneLine_body (r : Record) : '\n' ∉ r.body.toList := by
  simp [toList_body, memberText, newline_notMem_quoted]

theorem read?_line (r : Record) : read? r.line = some (.object (r.members.map textMember)) := by
  have hline : r.line.toList = '\x7b' :: ((memberText ("event", r.event)).toList ++
      ((("severity", r.severity.name) :: r.orderedFields).flatMap
        (fun m => ',' :: (memberText m).toList) ++ ['\x7d', '\n'])) := by
    rw [line_eq, String.toList_append, toList_body]
    simp
  exact read?_object rfl hline

/-- The line break at the end of a line is its only one. -/
theorem getElem?_line_eq_newline (r : Record) (i : Nat) :
    r.line.toList[i]? = some '\n' ↔ i + 1 = r.line.length := by
  have hline : r.line.toList = r.body.toList ++ ['\n'] := by
    rw [line_eq]
    simp
  have hlength : r.line.length = r.body.toList.length + 1 := by
    rw [← String.length_toList, hline]
    simp
  rw [hline, hlength, List.getElem?_append]
  split
  · next hi =>
      constructor
      · intro h
        exact absurd (List.mem_of_getElem? h) r.oneLine_body
      · intro h
        omega
  · next hi =>
      have hone : ∀ k, ['\n'][k]? = some '\n' ↔ k = 0 := by
        intro k
        cases k <;> simp
      rw [hone]
      omega

/-! ### Fields in order -/

theorem perm_orderedFields (r : Record) : r.orderedFields.Perm r.fields :=
  List.mergeSort_perm r.fields fieldLe

/-- The fields stand in the order of their keys, if these differ. -/
theorem pairwise_orderedFields {r : Record} (h : (r.fields.map Prod.fst).Nodup) :
    r.orderedFields.Pairwise fun f g => f.1 < g.1 := by
  have htrans : ∀ a b c, fieldLe a b = true → fieldLe b c = true → fieldLe a c = true := by
    intro a b c hab hbc
    simp only [fieldLe, decide_eq_true_eq] at hab hbc ⊢
    exact String.le_trans hab hbc
  have htotal : ∀ a b, (fieldLe a b || fieldLe b a) = true := by
    intro a b
    simpa [fieldLe] using String.le_total a.1 b.1
  have hsorted := List.pairwise_mergeSort htrans htotal r.fields
  have hdistinct : r.orderedFields.Pairwise fun f g => f.1 ≠ g.1 :=
    List.pairwise_map.1 ((r.perm_orderedFields.map Prod.fst).nodup_iff.2 h)
  refine (hsorted.and hdistinct).imp fun {f g} hfg => ?_
  by_contra hlt
  exact hfg.2 (String.le_antisymm (of_decide_eq_true hfg.1) (String.not_lt.1 hlt))

/-- **The order of fields with different keys does not matter.** -/
theorem orderedFields_of_perm {r r' : Record} (h : (r.fields.map Prod.fst).Nodup)
    (hperm : r'.fields.Perm r.fields) : r'.orderedFields = r.orderedFields := by
  have h' : (r'.fields.map Prod.fst).Nodup := (hperm.map Prod.fst).nodup_iff.2 h
  refine List.Perm.eq_of_pairwise (fun f g _ _ hfg hgf => absurd hgf (String.lt_asymm hfg))
    (pairwise_orderedFields h') (pairwise_orderedFields h) ?_
  exact (r'.perm_orderedFields.trans hperm).trans r.perm_orderedFields.symm

theorem textMember_injective : Function.Injective textMember := by
  rintro ⟨k, v⟩ ⟨k', v'⟩ h
  simpa [textMember] using h

/-- **A line tells what is in its record.** -/
theorem members_of_line_eq {r r' : Record} (h : r'.line = r.line) : r'.members = r.members := by
  have hread := read?_line r'
  rw [h, read?_line r] at hread
  have hmembers : r.members.map textMember = r'.members.map textMember := by simpa using hread
  exact (List.map_injective_iff.2 textMember_injective hmembers).symm

/-- The line of a record has one form, and the record can be read back from it. -/
structure Canonical (r : Record) : Prop where
  /-- The same fields in any order give the same line, and other fields give another. -/
  order : ∀ fields, ({ r with fields } : Record).line = r.line ↔ fields.Perm r.fields
  /-- The last character is a line break, and no other character is. -/
  lineBreak : ∀ i, r.line.toList[i]? = some '\n' ↔ i + 1 = r.line.length
  /-- Reading the line gives an object with the event, the level and the fields, each once and with
  its text, in the order of their keys. -/
  readBack : ∃ ordered : Fields, ordered.Perm r.fields ∧ (ordered.Pairwise fun f g => f.1 < g.1) ∧
    ("event" :: "severity" :: ordered.map Prod.fst).Nodup ∧
    read? r.line = some (.object
      ((("event", r.event) :: ("severity", r.severity.name) :: ordered).map textMember))

/-- **Records are canonical and can be read back**, if the keys of their fields differ from each
other and from those of the event and the level. -/
theorem canonical_of_keys {r : Record} (hkeys : (r.fields.map Prod.fst).Nodup)
    (hevent : "event" ∉ r.fields.map Prod.fst) (hseverity : "severity" ∉ r.fields.map Prod.fst) :
    r.Canonical where
  order fields := by
    constructor
    · intro h
      have hmembers := members_of_line_eq h
      simp only [members, List.cons.injEq, true_and] at hmembers
      have hperm := perm_orderedFields { r with fields }
      rw [hmembers] at hperm
      exact hperm.symm.trans r.perm_orderedFields
    · intro hperm
      have hordered : ({ r with fields } : Record).orderedFields = r.orderedFields :=
        orderedFields_of_perm hkeys hperm
      rw [line, line, hordered]
  lineBreak := r.getElem?_line_eq_newline
  readBack := by
    have hperm := r.perm_orderedFields.map Prod.fst
    refine ⟨r.orderedFields, r.perm_orderedFields, pairwise_orderedFields hkeys, ?_, r.read?_line⟩
    refine List.nodup_cons.2 ⟨?_, List.nodup_cons.2 ⟨?_, hperm.nodup_iff.2 hkeys⟩⟩
    · rw [List.mem_cons, hperm.mem_iff]
      exact fun h => h.elim (by decide) hevent
    · rwa [hperm.mem_iff]

/-- A record with quotes, line breaks, a backslash and letters beyond ASCII in it. -/
def refusedName : Record where
  severity := .warn
  event := "COMPILE_REJECTED"
  fields := [("sql", "SELECT \"a\nb\"\r\n\tFROM t"), ("größe", "\x01\\"), ("code", "")]

theorem canonical_of_keys_refusedName :
    (refusedName.fields.map Prod.fst).Nodup ∧ "event" ∉ refusedName.fields.map Prod.fst ∧
      "severity" ∉ refusedName.fields.map Prod.fst ∧ refusedName.Canonical ∧
      { refusedName with fields := refusedName.fields.reverse }.line = refusedName.line := by
  have hkeys : (refusedName.fields.map Prod.fst).Nodup := by decide
  have hevent : "event" ∉ refusedName.fields.map Prod.fst := by decide
  have hseverity : "severity" ∉ refusedName.fields.map Prod.fst := by decide
  have hcanonical := canonical_of_keys hkeys hevent hseverity
  exact ⟨hkeys, hevent, hseverity, hcanonical,
    (hcanonical.order _).2 (List.reverse_perm _)⟩

end Journal.Record

end SqlPipeline
