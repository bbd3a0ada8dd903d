import FormulaGraph.Json.Basic

/-!
# Writing structured data

Data are written in ASCII: all else is escaped by its code, in pairs of codes where one is not
enough. Without an indent a datum is one line; with one, each item and member has its own line.
-/

namespace FormulaGraph.Json

open Text

def codeUnit (code : Nat) : List Char := '\\' :: 'u' :: hexDigits 4 code

def escapedChar (c : Char) : List Char :=
  match c with
  | '"' => ['\\', '"']
  | '\\' => ['\\', '\\']
  | '\n' => ['\\', 'n']
  | '\r' => ['\\', 'r']
  | '\t' => ['\\', 't']
  | '\x0c' => ['\\', 'f']
  | '\x08' => ['\\', 'b']
  | c =>
    let n := codeOf c
    if 32 ≤ n ∧ n < 127 then [c]
    else if n < 0x10000 then codeUnit n
    else codeUnit (0xd800 + (n - 0x10000) / 0x400) ++ codeUnit (0xdc00 + (n - 0x10000) % 0x400)

def quotedText (s : String) : String :=
  String.ofList ('"' :: s.toList.flatMap escapedChar ++ ['"'])

/-- A number; what is infinite or no number is written as a word. -/
def numberText : Number → String
  | .int n => Number.intText n
  | .float x =>
    if x.isNan then "NaN"
    else if x.isInfinite then if x.isNegative then "-Infinity" else "Infinity"
    else x.decimal

def scalarText : Scalar → String
  | .null => "null"
  | .bool true => "true"
  | .bool false => "false"
  | .number n => numberText n
  | .str s => quotedText s

/-- How the parts of a datum are set apart. -/
structure Layout where
  /-- What stands between two parts, after the comma, at a depth. -/
  gap : Nat → String
  /-- What stands before the first part and after the last one, at a depth. -/
  edge : Nat → String

def Layout.line : Layout := ⟨fun _ => " ", fun _ => ""⟩

/-- Each part on its own line, indented by a text for each level. -/
def Layout.indentedBy (unit : String) : Layout :=
  let start (depth : Nat) : String := "\n" ++ String.join (List.replicate depth unit)
  ⟨start, start⟩

def Layout.indented (spaces : Nat) : Layout :=
  let start (depth : Nat) : String := String.ofList ('\n' :: List.replicate (spaces * depth) ' ')
  ⟨start, start⟩

inductive IndentFault where
  /-- It does not fit into a word of the machine. -/
  | outOfRange
  /-- So many spaces do not fit into memory. -/
  | tooLarge
  /-- It is of a kind that counts nothing. -/
  | kind (name : String)
deriving DecidableEq

/-- The largest indent that may fit into memory. -/
def maxIndent : Nat := 0x1000000000

/-- The layout for an indent, which is none if negative; without one all is on one line. -/
def Layout.ofIndent : Option Int → Except IndentFault Layout
  | none => .ok .line
  | some spaces =>
    if spaces < -0x8000000000000000 ∨ 0x8000000000000000 ≤ spaces then .error .outOfRange
    else if maxIndent < spaces then .error .tooLarge
    else .ok (.indented spaces.toNat)

theorem Layout.ofIndent_negative {spaces : Int} (low : -0x8000000000000000 ≤ spaces) (negative : spaces < 0) :
    Layout.ofIndent (some spaces) = .ok (.indented 0) := by
  have inside : ¬ (spaces < -0x8000000000000000 ∨ 0x8000000000000000 ≤ spaces) := by omega
  have small : ¬ ((maxIndent : Int) < spaces) := by omega
  have none : spaces.toNat = 0 := by omega
  simp only [Layout.ofIndent, if_neg inside, if_neg small, none]

mutual

def write (layout : Layout) (depth : Nat) : Json → String
  | .scalar s => scalarText s
  | .arr [] => "[]"
  | .arr (item :: rest) =>
    "[" ++ layout.edge (depth + 1) ++ item.write layout (depth + 1) ++
      writeItems layout (depth + 1) rest ++ layout.edge depth ++ "]"
  | .obj [] => "\x7b\x7d"
  | .obj ((name, value) :: rest) =>
    "\x7b" ++ layout.edge (depth + 1) ++ quotedText name ++ ": " ++ value.write layout (depth + 1) ++
      writeMembers layout (depth + 1) rest ++ layout.edge depth ++ "\x7d"

def writeItems (layout : Layout) (depth : Nat) : List Json → String
  | [] => ""
  | item :: rest => "," ++ layout.gap depth ++ item.write layout depth ++ writeItems layout depth rest

def writeMembers (layout : Layout) (depth : Nat) : List (String × Json) → String
  | [] => ""
  | (name, value) :: rest =>
    "," ++ layout.gap depth ++ quotedText name ++ ": " ++ value.write layout depth ++
      writeMembers layout depth rest

end

def compact (datum : Json) : String := datum.write .line 0

/-- The layout for an indent that is a datum: a number of spaces, of which a truth value is one or
none, or the text that indents. -/
def Layout.ofDatum : Json → Except IndentFault Layout
  | .scalar .null => Layout.ofIndent none
  | .scalar (.number (.int n)) => Layout.ofIndent (some n)
  | .scalar (.bool b) => Layout.ofIndent (some (if b then 1 else 0))
  | .scalar (.str unit) => .ok (.indentedBy unit)
  | other => .error (.kind other.kind)

def pretty (indent : Option Int) (datum : Json) : Except IndentFault String :=
  (Layout.ofIndent indent).map fun layout => datum.write layout 0

end FormulaGraph.Json
