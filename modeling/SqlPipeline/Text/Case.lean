/-
Names are compared without regard to the case of the letters `A` to `Z`.

* `Text.lower` — the text with these letters in lower case;
* `Text.sameName` — two texts that are equal in lower case.

Letters outside `A` to `Z` have no case here: `Größe` and `GRÖSSE` are different names.
-/

set_option autoImplicit false

namespace SqlPipeline.Text

/-- The text with the letters `A` to `Z` in lower case. -/
def lower (s : String) : String :=
  String.ofList (s.toList.map Char.toLower)

/-- Two names are the same if they are equal in lower case. -/
def sameName (a b : String) : Bool :=
  lower a == lower b

/-! ### Views -/

@[simp] theorem toList_lower (s : String) : (lower s).toList = s.toList.map Char.toLower := by
  simp [lower]

@[simp] theorem sameName_iff {a b : String} : sameName a b = true ↔ lower a = lower b := by
  simp [sameName]

theorem sameName_refl (a : String) : sameName a a = true := by
  simp

end SqlPipeline.Text
