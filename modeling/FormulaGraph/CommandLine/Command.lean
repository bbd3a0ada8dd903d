import FormulaGraph.CommandLine.Integer
import FormulaGraph.CommandLine.Words
import FormulaGraph.Formula.Label
import FormulaGraph.Path
import FormulaGraph.Text.Surrogate

/-!
# Commands

A command compiles a formula, shows a graph, or lists the operators. `Command.ofWords` reads one from
the words of a command line.
-/

namespace FormulaGraph.CommandLine

structure CompileRequest where
  tree : Path
  catalog : Option Path
  /-- The file that the graph goes to; without one it is printed. -/
  output : Option Path
  /-- Whether the node of the formula becomes the result. -/
  mark : Bool
  /-- The names of the parameters of a scope around the formula; without names there is no scope. -/
  parameters : List String
  labels : Option NumericLabels
  indent : Int

inductive Command where
  | compile (request : CompileRequest)
  | showGraph (graph : Path)
  | listOperators (catalog : Option Path)

def catalogOption : OptionSpec := ⟨"catalog", some 'c', true⟩

def compileOptions : List OptionSpec :=
  [catalogOption, ⟨"output", some 'o', true⟩, ⟨"no-result", none, false⟩,
   ⟨"callback-parameter", some 'p', true⟩, ⟨"numeric-labels", none, true⟩, ⟨"indent", none, true⟩]

def standardIndent : Int := 2

/-- Whether a character may stand in a path. Of the halves of code pairs, those that stand for a byte
may. -/
def isPathChar (c : Char) : Bool :=
  let code := Text.codeOf c
  code ≠ 0 && (!Text.isHalf c || (0xdc80 ≤ code && code < 0xdd00))

/-- The path that a word is; none if it has a character that no path has. -/
def readPath? (word : String) : Option Path :=
  if word.toList.all isPathChar then some (.ofText word) else none

/-- The value of an option as it is read, if the option was given; none if it cannot be read. -/
def Words.read? {α : Type} (words : Words) (name : String) (read : String → Option α) :
    Option (Option α) :=
  match words.value? name with
  | none => some none
  | some text => (read text).map some

namespace Command

def compileOf (words : Words) : Option Command := do
  let [tree] := words.operands | none
  let tree ← readPath? tree
  let catalog ← words.read? "catalog" readPath?
  let output ← words.read? "output" readPath?
  let labels ← words.read? "numeric-labels" NumericLabels.ofName?
  let indent ← words.read? "indent" readInteger?
  return .compile {
    tree := tree
    catalog := catalog
    output := output
    mark := !words.has "no-result"
    parameters := words.values "callback-parameter"
    labels := labels
    indent := indent.getD standardIndent }

def showGraphOf (words : Words) : Option Command :=
  match words.operands with
  | [graph] => (readPath? graph).map .showGraph
  | _ => none

def listOperatorsOf (words : Words) : Option Command :=
  match words.operands with
  | [] => (words.read? "catalog" readPath?).map .listOperators
  | _ => none

def ofName (name : String) (words : List String) : Option Command :=
  match name with
  | "compile" => (readWords compileOptions words).bind compileOf
  | "show" => (readWords [] words).bind showGraphOf
  | "operators" => (readWords [catalogOption] words).bind listOperatorsOf
  | _ => none

/-- The command of a command line: its name, and words; none if there is no such command. Before the
name it may be said, also more than once, that not all is to be told, and two dashes may stand. -/
def ofWords : List String → Option Command
  | "--no-verbose" :: words => ofWords words
  | "--" :: name :: words => ofName name words
  | name :: words => ofName name words
  | [] => none

end Command
end FormulaGraph.CommandLine
