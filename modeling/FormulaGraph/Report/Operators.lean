import FormulaGraph.Catalog.Basic
import FormulaGraph.Operator
import FormulaGraph.Report.Output

/-!
# The report on operators

The report lists the operators with their operations and, when there is a catalog, the parameters
that it has for them. An operation needs two, one for each operand.
-/

namespace FormulaGraph.Operator

def parametersLabel (catalog : Catalog) (operation : String) : String :=
  match catalog.get? operation with
  | none => "[red]missing[/red]"
  | some definition =>
    let names := ", ".intercalate definition.parameterNames
    if definition.arity < 2 then "[red]" ++ names ++ " (needs 2)[/red]"
    else "[green]" ++ names ++ "[/green]"

def row (c : Console) (catalog : Option Catalog) (operator operation : String) : List String :=
  [c.escape operator, operation] ++
    match catalog with
    | none => []
    | some catalog => [parametersLabel catalog operation]

def reportOn (c : Console) (catalog : Option Catalog) : Output :=
  let heading := ["Operator", "Operation"] ++ if catalog.isSome then ["Parameters"] else []
  .ofPrinted (c.printTable heading (table.map fun (operator, operation) => row c catalog operator operation))

end FormulaGraph.Operator
