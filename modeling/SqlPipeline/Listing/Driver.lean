/-
The procedure that runs the operators and prints their records.  Main definition:
`Listing.driver`.
-/

import SqlPipeline.Listing.Lines
import SqlPipeline.Plan.Step

set_option autoImplicit false

namespace SqlPipeline.Listing

open Plan

/-- The pointer to the value of a printed column, if it has one. -/
def pointerLine? (c : OutputColumn) : Option Line :=
  c.pointer.map fun (type, offset) =>
    line (type.name ++ "* " ++ c.name ++ " = (" ++ type.name ++ "*)((int8_t*)recordBuffer + "
      ++ toString offset ++ ");")

def printLine (output : List OutputColumn) : Line :=
  line ("printf(\"" ++ ",".intercalate (output.map fun c => c.type.conversion) ++ "\\n\", "
    ++ ", ".intercalate (output.map OutputColumn.valueText) ++ ");")

/-- The procedure that runs the operators and prints their records. -/
def driver (p : Program) : List Line :=
  block "void execOperator(embedDBState* state)" <|
    [line "void** allocatedValues;",
     line "embedDBOperator* op = createOperator(state, &allocatedValues);",
     line "void* recordBuffer = op->recordBuffer;"]
    ++ p.output.filterMap pointerLine?
    ++ [.blank, line "// Print as csv"]
    ++ block "while (exec(op))" [printLine p.output]
    ++ [line "printf(\"\\n\");", .blank,
        line "op->close(op);",
        line "embedDBFreeOperatorRecursive(&op);",
        line "recordBuffer = NULL;"]
    ++ block ("for (int i = 0; i < " ++ toString p.allocations.length ++ "; i++)")
      [line "free(allocatedValues[i]);"]
    ++ [line "free(allocatedValues);"]

end SqlPipeline.Listing
