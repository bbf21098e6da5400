/-
Names that are not in use.

* `Text.numbered` — a name with a number after it;
* `Text.fresh` — a name, or the first of its numbered forms, that is not among the names in use.
-/

set_option autoImplicit false

namespace SqlPipeline.Text

/-- The `n`-th form of a name: the name itself, then `name_2`, `name_3` and so on. -/
def numbered (base : String) (n : Nat) : String :=
  if n < 2 then base else base ++ "_" ++ toString n

/-- The first form of a name from the `n`-th on that is not in use, if it is found among the first
`fuel` of them. -/
def freshFrom (used : List String) (base : String) : Nat → Nat → String
  | 0, n => numbered base n
  | fuel + 1, n =>
    if used.contains (numbered base n) then freshFrom used base fuel (n + 1)
    else numbered base n

/-- The first form of a name that is not in use.  The forms differ from each other, so one of the
first `used.length + 1` of them is free.  The number of the form is at most `used.length + 1`: this
bound keeps a counter of 32 bits from running over, unless that many names are in use. -/
def fresh (used : List String) (base : String) : String :=
  freshFrom used base used.length 1

end SqlPipeline.Text
