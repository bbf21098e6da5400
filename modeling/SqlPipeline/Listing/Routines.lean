/-
The definitions of routines in the generated program.  Main definition: `Listing.routine`.
-/

import SqlPipeline.Listing.Lines
import SqlPipeline.Plan.Routine

set_option autoImplicit false

namespace SqlPipeline.Listing

open Layout Plan

def mathRoutine : MathFunction → List Line
  | .floor => block "int embedDBFloor(double x)"
      [line "int xi = (int)x;", line "return x < xi ? xi - 1 : xi;"]
  | .ceil => block "int embedDBCeil(double x)"
      [line "int xi = (int)x;", line "return x > xi ? xi + 1 : xi;"]
  | .round => block "int embedDBRound(double x)"
      [line "x += 0.5;", line "int xi = (int)x;", line "return x < xi ? xi - 1 : xi;"]
  | .abs => block "double embedDBAbs(double x)"
      [line "return x < 0 ? -x : x;"]

/-- A variable that holds a value of a record. -/
def fieldOf (name record : String) (type : Storage) (offset : Nat) : Line :=
  line (type.name ++ " " ++ name ++ " = *((" ++ type.name ++ "*)((int8_t*)" ++ record ++ " + "
    ++ toString offset ++ "));")

/-- The test whether two records belong to one group. -/
def groupTestBody : GroupTest → List Line
  | .always => [line "return 1;"]
  | .expression e type offset =>
    [fieldOf "lastValue" "lastRecord" type offset,
     fieldOf "value" "record" type offset,
     line ("return " ++ e.textWith "lastValue" ++ " == " ++ e.textWith "value" ++ ";")]

def routineLines : Routine → List Line
  | .math f => mathRoutine f
  | .groupTest test =>
    block "int8_t groupFunction(const void* lastRecord, const void* record)" (groupTestBody test)
  | .groupValue name e source offset output =>
    block ("void " ++ name ++ "(embedDBAggregateFunc* aggFunc, embedDBSchema* schema, "
        ++ "void* recordBuffer, const void* lastRecord)")
      [fieldOf "lastValue" "lastRecord" source offset,
       line (output.name ++ " calculatedValue = " ++ e.textWith "lastValue" ++ ";"),
       line ("memcpy((int8_t*)recordBuffer + getColOffsetFromSchema(schema, aggFunc->colNum), "
         ++ "&calculatedValue, sizeof(" ++ output.name ++ "));")]

/-- The text of the definition of a routine. -/
def routine (r : Routine) : String :=
  text (routineLines r)

end SqlPipeline.Listing
