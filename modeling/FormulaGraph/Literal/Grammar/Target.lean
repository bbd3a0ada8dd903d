import FormulaGraph.Literal.Grammar.Operator

/-!
# Targets

What a loop assigns to: names, members of objects, and several targets in parentheses. A star before
a target lets it take what is left.
-/

namespace FormulaGraph.Literal.Grammar

open Reading

variable (rule : Rule → Reading Tree)

/-- What shows that more of an operand follows. -/
def trailerAhead : Reading Unit := ahead (first [sign "(", sign "[", sign "."])

def targetPrimary : Reading Tree := do
  let tree ← atom rule
  trailerAhead
  let trailers ← many (do
    let found ← trailer rule
    trailerAhead
    return found)
  return trailers.foldl (fun tree trailer => trailer tree) tree

def targetTuple : Reading Unit := do
  let _ ← rule .starTarget
  branch (several (do
      sign ","
      rule .starTarget))
    (fun _ => do
      let _ ← attempt (sign ",")
      return ())
    (sign ",")

def plainTarget : Reading Tree :=
  first [
    do
      let tree ← rule .targetPrimary
      sign "."
      let _ ← name
      notAhead trailerAhead
      return .member tree,
    do
      let id ← name
      return .name id,
    do
      sign "("
      let tree ← rule .plainTarget
      sign ")"
      return tree,
    do
      sign "("
      let _ ← attempt (targetTuple rule)
      sign ")"
      return .tuple []]

def starTarget : Reading Tree :=
  either (do
    sign "*"
    notAhead (sign "*")
    rule .starTarget) (rule .plainTarget)

end FormulaGraph.Literal.Grammar
