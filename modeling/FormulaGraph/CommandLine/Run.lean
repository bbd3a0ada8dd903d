import FormulaGraph.CommandLine.Task
import FormulaGraph.Terminal.Console

/-!
# Running commands on a terminal

What was asked for goes to a stream that takes no halves of code pairs, and what is said besides to one that
shows them by their codes.
-/

namespace FormulaGraph

/-- A text without halves of code pairs. -/
def wholeText (text : String) : Except Fault String :=
  match Text.halves? text.toList with
  | none => .ok text
  | some (offset, codes) => .error (.misuse (.unprintable offset codes))

/-- A text in which halves of code pairs are shown by their codes. -/
def showHalves (text : String) : String :=
  String.ofList (text.toList.flatMap fun c =>
    if Text.isHalf c then Text.escapeCode (Text.codeOf c) else [c])

def Graph.report (g : Graph) : Output := g.reportOn Terminal.console

def Operator.report (catalog : Option Catalog) : Output := Operator.reportOn Terminal.console catalog

namespace CommandLine

def Screen.terminal : Screen where
  out := Terminal.console.onto wholeText
  err := Terminal.console.onto fun text => .ok (showHalves text)

def run {m : Type → Type} [Monad m] [Host m] (words : List String) : m Ending := runOn .terminal words

end CommandLine
end FormulaGraph
