/-!
# Defects of catalog entries

An entry of a listing is checked as a whole, and each defect names the place in the entry where a
value is missing or of the wrong kind.
-/

namespace FormulaGraph

/-- A step towards a part of an entry: a member by name, or an item by position. -/
inductive EntryStep where
  | member (name : String)
  | item (position : Nat)
deriving DecidableEq

inductive EntryCause where
  | missing
  | notText
  | notSequence
  | notTruthValue
  | unclearTruthValue
  /-- A text with halves of code pairs, where a truth value is expected. -/
  | brokenText
  /-- Not an object, where an operation or a parameter is described. -/
  | notOperation
  | notParameter
deriving DecidableEq

structure EntryDefect where
  place : List EntryStep
  cause : EntryCause
deriving DecidableEq

def EntryCause.code : EntryCause → String
  | .missing => "missing"
  | .notText => "string_type"
  | .notSequence => "tuple_type"
  | .notTruthValue => "bool_type"
  | .unclearTruthValue => "bool_parsing"
  | .brokenText => "string_unicode"
  | .notOperation | .notParameter => "model_type"

def EntryCause.message : EntryCause → String
  | .missing => "Field required"
  | .notText => "Input should be a valid string"
  | .notSequence => "Input should be a valid tuple"
  | .notTruthValue => "Input should be a valid boolean"
  | .unclearTruthValue => "Input should be a valid boolean, unable to interpret input"
  | .brokenText =>
    "Input should be a valid string, unable to parse raw data as a unicode string"
  | .notOperation => "Input should be a valid dictionary or instance of OperationDef"
  | .notParameter => "Input should be a valid dictionary or instance of OperationParameter"

end FormulaGraph
