import FormulaGraph.Number.Basic
import FormulaGraph.Text.Quoted
import FormulaGraph.NameMap

/-!
# Structured data

A datum is a scalar, an array, or an object whose members keep the order in which they were
written. Data are also shown in messages, as literals: `Json.literal`.
-/

namespace FormulaGraph

/-- A datum without parts. -/
inductive Scalar where
  | null
  | bool (value : Bool)
  | number (value : Number)
  | str (value : String)
deriving DecidableEq, Inhabited

inductive Json where
  | scalar (value : Scalar)
  | arr (items : List Json)
  | obj (members : List (String × Json))
deriving Inhabited, BEq

namespace Scalar

def kind : Scalar → String
  | .null => "NoneType"
  | .bool _ => "bool"
  | .number (.int _) => "int"
  | .number (.float _) => "float"
  | .str _ => "str"

/-- A scalar as a literal: words have a capital, texts have quotes. -/
def literal : Scalar → String
  | .null => "None"
  | .bool true => "True"
  | .bool false => "False"
  | .number n => n.text
  | .str s => Text.quoted s

/-- A scalar in a running text: a text stands for itself, all else for its literal. -/
def text : Scalar → String
  | .str s => s
  | other => other.literal

def hasText : Scalar → Bool
  | .number n => n.hasText
  | _ => true

/-- Whether a scalar counts as present: not null, false, zero or the empty text. -/
def isTruthy : Scalar → Bool
  | .null => false
  | .bool b => b
  | .number n => !n.isZero
  | .str s => s ≠ ""

end Scalar

namespace Json

@[match_pattern] abbrev null : Json := .scalar .null

@[match_pattern] abbrev bool (value : Bool) : Json := .scalar (.bool value)

@[match_pattern] abbrev int (value : Int) : Json := .scalar (.number (.int value))

@[match_pattern] abbrev str (value : String) : Json := .scalar (.str value)

def kind : Json → String
  | .scalar s => s.kind
  | .arr _ => "list"
  | .obj _ => "dict"

mutual

def literal : Json → String
  | .scalar s => s.literal
  | .arr items => "[" ++ literalItems items ++ "]"
  | .obj members => "\x7b" ++ literalMembers members ++ "\x7d"

def literalItems : List Json → String
  | [] => ""
  | [item] => item.literal
  | item :: rest => item.literal ++ ", " ++ literalItems rest

def literalMembers : List (String × Json) → String
  | [] => ""
  | [(name, value)] => Text.quoted name ++ ": " ++ value.literal
  | (name, value) :: rest =>
    Text.quoted name ++ ": " ++ value.literal ++ ", " ++ literalMembers rest

end

def text : Json → String
  | .scalar s => s.text
  | other => other.literal

mutual

/-- Whether a datum can be told in words: it is no integer that is too long, and holds none. -/
def hasText : Json → Bool
  | .scalar s => s.hasText
  | .arr items => haveText items
  | .obj members => membersHaveText members

def haveText : List Json → Bool
  | [] => true
  | item :: rest => item.hasText && haveText rest

def membersHaveText : List (String × Json) → Bool
  | [] => true
  | (_, value) :: rest => value.hasText && membersHaveText rest

end

def isTruthy : Json → Bool
  | .scalar s => s.isTruthy
  | .arr items => !items.isEmpty
  | .obj members => !members.isEmpty

def compoundKind? : Json → Option String
  | .scalar _ => none
  | other => some other.kind

end Json
end FormulaGraph
