import FormulaGraph.Json.Basic

/-!
# Configuration data

A configuration file holds a table. Besides texts, truth values, numbers, arrays and tables there are
moments: dates, times, or both together.
-/

namespace FormulaGraph

/-- What a moment tells. -/
inductive MomentKind where
  | dateTime
  | date
  | time
deriving DecidableEq

inductive Toml where
  | scalar (value : Scalar)
  /-- A moment, as it is written. -/
  | moment (kind : MomentKind) (text : String)
  | arr (items : List Toml)
  | table (members : List (String × Toml))

namespace Toml

@[match_pattern] abbrev str (value : String) : Toml := .scalar (.str value)

def kind : Toml → String
  | .scalar s => s.kind
  | .moment .dateTime _ => "datetime.datetime"
  | .moment .date _ => "datetime.date"
  | .moment .time _ => "datetime.time"
  | .arr _ => "list"
  | .table _ => "dict"

def isTruthy : Toml → Bool
  | .scalar s => s.isTruthy
  | .moment _ _ => true
  | .arr items => !items.isEmpty
  | .table members => !members.isEmpty

def isText (text : String) : Toml → Bool
  | .str s => s = text
  | _ => false

def hasParts : Toml → Bool
  | .arr _ | .table _ => true
  | _ => false

end Toml
end FormulaGraph
