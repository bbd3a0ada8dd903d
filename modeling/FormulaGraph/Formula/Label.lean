import FormulaGraph.Fault

/-!
# Labels of element references

An element of a parameter is selected by what follows the dollar sign. A text of ASCII digits is a
position or a label, as the options say; any other number is refused, and all else is a label.
-/

namespace FormulaGraph

inductive NumericLabels where
  /-- As a position. -/
  | index
  /-- As a label. -/
  | label
  /-- Not at all. -/
  | reject
deriving DecidableEq, Inhabited

namespace NumericLabels

def name : NumericLabels → String
  | .index => "index"
  | .label => "label"
  | .reject => "reject"

def ofName? (name : String) : Option NumericLabels :=
  [index, label, reject].find? fun choice => choice.name = name

end NumericLabels

namespace Label

open Text

def isDigits (label : List Char) : Bool := !label.isEmpty && label.all Char.isDigit

def skipSign : List Char → List Char
  | '+' :: rest => rest
  | '-' :: rest => rest
  | rest => rest

def skipDigits? (text : List Char) : Option (List Char) :=
  match text with
  | [] => none
  | c :: rest => if isDigit c then some (rest.dropWhile isDigit) else none

def skipMantissa? (text : List Char) : Option (List Char) :=
  match text with
  | '.' :: rest => skipDigits? rest
  | other =>
    (skipDigits? other).map fun rest =>
      match rest with
      | '.' :: more => more.dropWhile isDigit
      | more => more

/-- Whether a text is an exponent, or empty; a line feed may follow. -/
def isExponentTail : List Char → Bool
  | [] => true
  | ['\n'] => true
  | mark :: rest =>
    if mark = 'e' ∨ mark = 'E' then
      match skipDigits? (skipSign rest) with
      | some [] => true
      | some ['\n'] => true
      | _ => false
    else false

/-- Whether a text is a decimal number: a sign, digits of any script with a point, an exponent. -/
def isNumeric (label : List Char) : Bool :=
  match skipMantissa? (skipSign label) with
  | some rest => isExponentTail rest
  | none => false

def selector (mode : NumericLabels) (label : String) : Except Fault Scalar :=
  let refuse (reason : LabelFault) : Except Fault Scalar :=
    .error (.formula (.unsupportedLabel label reason))
  let cs := label.toList
  if cs.isEmpty then refuse .empty
  else if isDigits cs then
    match mode with
    | .index =>
      match Number.readInt cs with
      | .ok n => .ok (.number (.int n))
      | .error cause => .error (.misuse (Misuse.ofIntFault label cause))
    | .label => .ok (.str label)
    | .reject => refuse .numeric
  else if isNumeric cs then refuse .notIndex
  else .ok (.str label)

end Label
end FormulaGraph
