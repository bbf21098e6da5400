/-
The procedure that constructs the operators.

* `Listing.stepLines` — the lines of a step;
* `Listing.construction` — the whole procedure.
-/

import SqlPipeline.Listing.Lines
import SqlPipeline.Plan.Step

set_option autoImplicit false

namespace SqlPipeline.Listing

open Layout Plan Query

def commaJoined (ts : List String) : String :=
  ", ".intercalate ts

/-- The number of a literal, as it is stored with the given type. -/
def storedText (storage : Storage) (value : Literal) : Except Fault String :=
  match value with
  | .integer v => .ok (toString v)
  | .decimal v =>
    if storage.isFloat then .ok v.text else .error (.internal (.storedLiteral value storage))
  | .text _ => .error (.internal (.storedLiteral value storage))

def literalLines (name : String) (storage : Storage) (value : Literal) :
    Except Fault (List Line) := do
  let stored ← storedText storage value
  let t := storage.name
  return [line (t ++ "* " ++ name ++ " = (" ++ t ++ "*)malloc(sizeof(" ++ t ++ "));"),
    line ("*" ++ name ++ " = " ++ stored ++ ";")]

def boundLine (field : String) (bound : Option String) : Line :=
  line ("it->" ++ field ++ " = " ++ bound.getD "NULL" ++ ";")

/-- The iterator over the records within bounds. -/
def iteratorLines (minKey maxKey minData maxData : Option String) : List Line :=
  [line "embedDBIterator* it = (embedDBIterator*)malloc(sizeof(embedDBIterator));",
   boundLine "minKey" minKey, boundLine "maxKey" maxKey,
   boundLine "minData" minData, boundLine "maxData" maxData,
   line "embedDBInitIterator(state, it);", .blank]

def signText (c : Column) : String :=
  if c.type.isSigned then "embedDB_COLUMN_SIGNED" else "embedDB_COLUMN_UNSIGNED"

/-- The layout of the stored records. -/
def schemaLines (s : Schema) : List Line :=
  [line ("uint8_t numCols = " ++ toString s.length ++ ";"),
   line ("int8_t colSizes[] = \x7b" ++ commaJoined (s.columns.map fun c => toString c.size)
     ++ "\x7d;"),
   line ("int8_t colSignedness[] = \x7b" ++ commaJoined (s.columns.map signText) ++ "\x7d;"),
   line "embedDBSchema* schema = embedDBCreateSchema(numCols, colSizes, colSignedness);"]

/-- An operator that keeps the records for which a comparison holds. -/
def selectionLine (name input : String) (column : Nat) (op : Comparator) (value : String) : Line :=
  line ("embedDBOperator* " ++ name ++ " = createSelectionOperator(" ++ input ++ ", "
    ++ toString column ++ ", " ++ op.constant ++ ", " ++ value ++ ");")

/-! ### Groups -/

/-- The column that a value of a group is computed from. -/
def sourceText (d : Descriptor) : Except Fault String :=
  match d.sourceColumn with
  | some n => .ok (toString n)
  | none => .error (.internal (.sourceless d.holder))

/-- The size of an extreme value: negative if its source has a sign. -/
def signedSize (d : Descriptor) : String :=
  if (d.sourceType.map Storage.isSigned).getD false then "-" ++ toString d.output.size
  else toString d.output.size

def descriptorLines (d : Descriptor) : Except Fault (List Line) := do
  let head := "embedDBAggregateFunc* " ++ d.holder ++ " = "
  match d.kind with
  | .aggregate .min =>
    let source ← sourceText d
    return [line (head ++ "createMinAggregate(" ++ source ++ ", " ++ signedSize d ++ ");")]
  | .aggregate .max =>
    let source ← sourceText d
    return [line (head ++ "createMaxAggregate(" ++ source ++ ", " ++ signedSize d ++ ");")]
  | .aggregate .count => return [line (head ++ "createCountAggregate();")]
  | .aggregate .sum => return [line (head ++ "createSumAggregate(" ++ (← sourceText d) ++ ");")]
  | .aggregate .avg =>
    return [line (head ++ "createAvgAggregate(" ++ (← sourceText d) ++ ", "
      ++ toString d.output.size ++ ");")]
  | .groupValue =>
    match d.compute with
    | none => throw (.internal (.computeless d.holder))
    | some compute =>
      return [
        line (head ++ "(embedDBAggregateFunc*)calloc(1, sizeof(embedDBAggregateFunc));"),
        line (d.holder ++ "->compute = " ++ compute ++ ";"),
        line (d.holder ++ "->colSize = " ++ toString d.output.size ++ ";")]

/-- The values of a group, packed into an array, and the operator that computes them. -/
def aggregateLines (transient : List String) (input : String) (ds : List Descriptor)
    (packed name : String) : Except Fault (List Line) := do
  let values ← ds.mapM descriptorLines
  let count := toString ds.length
  return values.flatten
    ++ [line ("embedDBAggregateFunc* " ++ packed ++ " = (embedDBAggregateFunc*)malloc(" ++ count
      ++ " * sizeof(embedDBAggregateFunc));")]
    ++ ds.zipIdx.map (fun (d, i) =>
      line (packed ++ "[" ++ toString i ++ "] = *" ++ d.holder ++ ";"))
    ++ transient.map (fun v => line ("free(" ++ v ++ ");"))
    ++ [line ("embedDBOperator* " ++ name ++ " = createAggregateOperator(" ++ input
      ++ ", groupFunction, " ++ packed ++ ", " ++ count ++ ");")]

/-! ### The procedure -/

/-- The lines of a step, in a program that frees the variables `transient` during the
construction. -/
def stepLines (transient : List String) : Step → Except Fault (List Line)
  | .literal name storage value => literalLines name storage value
  | .iterator minKey maxKey minData maxData =>
    return iteratorLines minKey maxKey minData maxData
  | .scan schema name =>
    return schemaLines schema
      ++ [line ("embedDBOperator* " ++ name ++ " = createTableScanOperator(state, it, schema);")]
  | .selection name input column op value => return [selectionLine name input column op value]
  | .having name input column op value => return [selectionLine name input column op value]
  | .aggregate input ds packed name => aggregateLines transient input ds packed name

/-- The lines after the steps: the variables that are to be freed at the end are handed out. -/
def handOverLines (p : Program) : List Line :=
  [line (p.root ++ "->init(" ++ p.root ++ ");"), .blank,
   line "embedDBFreeSchema(&schema);", .blank,
   line ("*allocatedValues = (void**)malloc(" ++ toString p.allocations.length
     ++ " * sizeof(void*));")]
    ++ p.allocations.zipIdx.map (fun (v, i) =>
      line ("((void**)*allocatedValues)[" ++ toString i ++ "] = " ++ v ++ ";"))
    ++ [.blank, line ("return " ++ p.root ++ ";")]

/-- The procedure that constructs the operators. -/
def construction (p : Program) : Except Fault (List Line) := do
  let steps ← p.steps.mapM (stepLines p.transient)
  return block "embedDBOperator* createOperator(embedDBState* state, void*** allocatedValues)"
    (steps.flatten ++ handOverLines p)

end SqlPipeline.Listing
