/-
The text of a program: its routines, the procedure that constructs the operators, and the
procedure that runs them.  Main definition: `Listing.ofProgram`.
-/

import SqlPipeline.Listing.Construction
import SqlPipeline.Listing.Driver
import SqlPipeline.Listing.Routines

set_option autoImplicit false

namespace SqlPipeline.Listing

open Plan

/-- The definitions of the routines, with a blank line after each. -/
def routinesText (rs : Routines) : String :=
  String.join (rs.list.map fun r => routine r ++ "\n")

/-- The text of a program, which must print something. -/
def ofProgram (p : Program) : Except Fault String := do
  if p.output.isEmpty then throw (.internal .noOutput)
  let create ← construction p
  return routinesText p.routines ++ text create ++ "\n" ++ text (driver p)

end SqlPipeline.Listing
