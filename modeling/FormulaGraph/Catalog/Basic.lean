import FormulaGraph.Event
import FormulaGraph.Fault

/-!
# Operation catalogs

A catalog offers operations, each with its formal parameters. When a name is listed more than once
the last definition counts, in the place of the first.
-/

namespace FormulaGraph

structure OperationParameter where
  name : String
  description : String
  optional : Bool
deriving DecidableEq, Inhabited

structure Operation where
  name : String
  summary : String
  description : String
  parameters : List OperationParameter
deriving DecidableEq, Inhabited

namespace Operation

def arity (o : Operation) : Nat := o.parameters.length

def parameterNames (o : Operation) : List String := o.parameters.map (·.name)

end Operation

structure Catalog where
  /-- The operations as listed. -/
  operations : List Operation
  /-- The definition that counts for each name, names in the order in which they are first listed. -/
  index : NameMap Operation
  index_eq : index = NameMap.ofList (operations.map fun o => (o.name, o))

namespace Catalog

def ofOperations (operations : List Operation) : Catalog := ⟨operations, _, rfl⟩

instance : Inhabited Catalog := ⟨ofOperations []⟩

def get? (c : Catalog) (name : String) : Option Operation := NameMap.get? c.index name

/-- The definition of an operation whose name is given as a datum; only texts are names. -/
def find (c : Catalog) (name : Json) : Except Misuse (Option Operation) :=
  name.name?.map (·.bind c.get?)

def names (c : Catalog) : List String := NameMap.keys c.index

def definitions (c : Catalog) : List Operation := NameMap.values c.index

def size (c : Catalog) : Nat := c.index.length

def has (c : Catalog) (name : String) : Bool := NameMap.has c.index name

/-- The names that are listed again after their first place, once for each time. -/
def repeated (c : Catalog) : List String :=
  let rec go (seen : List String) : List Operation → List String
    | [] => []
    | o :: rest => if o.name ∈ seen then o.name :: go seen rest else go (o.name :: seen) rest
  go [] c.operations

def events (c : Catalog) : List Event := c.repeated.map .repeated

end Catalog
end FormulaGraph
