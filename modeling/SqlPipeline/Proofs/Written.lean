/-
**What names and numbers mean, apart from how they are looked up and read.**

A name is looked up by comparing texts in lower case, a qualifier likewise, and digits are added up
from the front.  Here each of them is given a meaning that mentions none of this: two names have the
same letters, one by one; a name stands for the first column that has its letters; digits write a
number in base ten.  What the lookups and readers find is then shown to be what is meant.

Main definitions:

* `Text.SameLetter`, `Text.SameLetters` — characters and names that differ at most in case;
* `Catalog.Table.columnCalled?` — the column that a name stands for;
* `Query.Scope.Refers` — a qualifier is a name of the table;
* `Query.numeral`, `Query.IsDecimal` — the number that digits write, and a number with a point or an
  exponent.

Main results:

* `Text.sameName_iff_sameLetters` — names are compared by their letters;
* `Catalog.Table.column?_eq_columnCalled?` — **the lookup finds the column that is meant**;
* `Query.Scope.refers_singleton` — **a qualifier is taken exactly if it refers to the table**;
* `Query.digitsNumber_eq_numeral` — **digits are read as the number that they write**.
-/

import Mathlib
import SqlPipeline.Query.Scope

set_option autoImplicit false

namespace SqlPipeline

/-! ### Letters -/

namespace Text

/-- A capital letter from `A` to `Z`, and the small letter that belongs to it. -/
def IsCapitalOf (c d : Char) : Prop :=
  'A'.toNat ≤ c.toNat ∧ c.toNat ≤ 'Z'.toNat ∧ d.toNat = c.toNat + ('a'.toNat - 'A'.toNat)

/-- Two characters are the same, or one letter in its two cases. -/
def SameLetter (c d : Char) : Prop :=
  c = d ∨ IsCapitalOf c d ∨ IsCapitalOf d c

/-- Two names have the same letters, one by one. -/
def SameLetters (a b : String) : Prop :=
  List.Forall₂ SameLetter a.toList b.toList

theorem toNat_toLower (c : Char) :
    c.toLower.toNat
      = if 'A'.toNat ≤ c.toNat ∧ c.toNat ≤ 'Z'.toNat then c.toNat + 32 else c.toNat := by
  have hcapital : (c.val ≥ 'A'.val ∧ c.val ≤ 'Z'.val) ↔
      ('A'.toNat ≤ c.toNat ∧ c.toNat ≤ 'Z'.toNat) := Iff.rfl
  unfold Char.toLower
  split
  · next h =>
      have hbound : c.val.toNat ≤ 90 := (hcapital.1 h).2
      have hdistance : ('a'.val - 'A'.val).toNat = 32 := by decide
      rw [if_pos (hcapital.1 h)]
      show (c.val + ('a'.val - 'A'.val)).toNat = c.val.toNat + 32
      rw [UInt32.toNat_add, hdistance]
      omega
  · next h => rw [if_neg (mt hcapital.2 h)]

/-- The characters that become equal in lower case. -/
theorem toLower_eq_iff {c d : Char} : c.toLower = d.toLower ↔ SameLetter c d := by
  rw [← Char.toNat_inj, toNat_toLower, toNat_toLower]
  unfold SameLetter IsCapitalOf
  rw [← Char.toNat_inj]
  simp only [Char.reduceToNat]
  split <;> split <;> omega

/-- **Names are compared by their letters.** -/
theorem sameName_iff_sameLetters {a b : String} : sameName a b = true ↔ SameLetters a b := by
  rw [sameName_iff, ← String.toList_inj, toList_lower, toList_lower, ← List.forall₂_eq_eq_eq,
    List.forall₂_map_left_iff, List.forall₂_map_right_iff]
  unfold SameLetters
  simp only [toLower_eq_iff]

instance (a b : String) : Decidable (SameLetters a b) :=
  decidable_of_iff _ sameName_iff_sameLetters

end Text

/-! ### Columns and qualifiers -/

/-- The first column with the letters of the name. -/
def Catalog.Table.columnCalled? (t : Table) (name : String) : Option Nat :=
  t.columns.findIdx? fun c => decide (Text.SameLetters c.name name)

/-- **The lookup of a name finds the column that is meant.** -/
theorem Catalog.Table.column?_eq_columnCalled? (t : Table) (name : String) :
    t.column? name = t.columnCalled? name := by
  unfold column? columnCalled?
  congr 1
  funext c
  rw [Bool.eq_iff_iff, Text.sameName_iff_sameLetters, decide_eq_true_iff]

namespace Query

open Sql

namespace Scope

/-- A qualifier refers to the table: it is the name of the table or the name that the query gives
it, in any case. -/
def Refers (s : Scope) : List Ident → Prop
  | [i] => Text.SameLetters i.value s.table.name ∨ ∃ a ∈ s.label, Text.SameLetters a i.value
  | _ => False

/-- **One name is taken for a qualifier exactly if it refers to the table.** -/
theorem refers_singleton {s : Scope} {i : Ident} : s.Refers [i] ↔ s.isQualifier i.value = true := by
  have hlabel : (s.label.any fun a => Text.sameName a i.value) = true ↔
      ∃ a ∈ s.label, Text.SameLetters a i.value := by
    cases s.label <;> simp [Text.sameName_iff_sameLetters, -Text.sameName_iff]
  rw [isQualifier, Bool.or_eq_true, hlabel, Text.sameName_iff_sameLetters, Refers]

instance (s : Scope) : (qualifier : List Ident) → Decidable (s.Refers qualifier)
  | [] => isFalse id
  | [_] => decidable_of_iff _ refers_singleton.symm
  | _ :: _ :: _ => isFalse id

end Scope

/-! ### Numbers -/

/-- The number that a row of digits writes, with the lowest digit at the end. -/
def numeral (text : String) : Nat :=
  Nat.ofDigits 10 (text.toList.reverse.map fun c => c.toNat - '0'.toNat)

/-- **Reading digits from the front gives the number that they write.** -/
theorem digitsNumber_eq_numeral (text : String) : digitsNumber text = numeral text := by
  unfold digitsNumber numeral
  induction text.toList using List.reverseRecOn with
  | nil => rfl
  | append_singleton cs c ih =>
      rw [List.foldl_append, ih, List.reverse_append, List.reverse_singleton,
        List.singleton_append, List.map_cons, Nat.ofDigits_cons]
      exact Nat.add_comm _ _

/-- A number is written with a point or an exponent. -/
def IsDecimal (text : String) : Prop :=
  ∃ mark ∈ ['.', 'e', 'E'], mark ∈ text.toList

theorem isDecimalText_iff {text : String} : isDecimalText text = true ↔ IsDecimal text := by
  simp only [isDecimalText, IsDecimal, List.any_eq_true, Bool.or_eq_true, beq_iff_eq,
    List.mem_cons, List.not_mem_nil, or_false]
  constructor
  · rintro ⟨c, hc, hmark⟩
    exact ⟨c, by simpa [or_assoc] using hmark, hc⟩
  · rintro ⟨c, hmark, hc⟩
    exact ⟨c, hc, by simpa [or_assoc] using hmark⟩

theorem isDecimalText_eq_false {text : String} :
    isDecimalText text = false ↔ ¬ IsDecimal text := by
  rw [← isDecimalText_iff, Bool.not_eq_true]

instance (text : String) : Decidable (IsDecimal text) :=
  decidable_of_iff _ isDecimalText_iff

end Query

end SqlPipeline
