import FormulaGraph.Fault

/-!
# Operators

Each operator of a formula invokes one operation of the catalog, which takes its two operands as its
first two parameters.
-/

namespace FormulaGraph.Operator

def table : NameMap String :=
  [("-", "subtract"), ("+", "add"), ("/", "divide"), ("*", "multiply"), ("^", "power")]

/-- The names of the operands of an operation that leaves its parameters unnamed. -/
def operandNames : String × String := ("x", "y")

def operation? (symbol : String) : Option String := NameMap.get? table symbol

def find (symbol : Json) : Except Misuse (Option String) :=
  symbol.name?.map (·.bind operation?)

end FormulaGraph.Operator
