import FormulaGraph.Literal.Grammar.Display

/-!
# Arguments

The arguments of a call are given by position first and by name after that. A value that is
unpacked by a star may stand among either, one that is unpacked by two among those with names only,
and a rule for values needs no parentheses of its own if it is the only argument.
-/

namespace FormulaGraph.Literal.Grammar

open Reading

variable (rule : Rule → Reading Tree)

/-- An argument behind those by position: a value that is unpacked into positions, or one by name or
by two stars, of which the second is told. -/
inductive Argument where
  | positional (tree : Tree)
  | keyword (unpacked : Bool)

/-- The arguments of a call as a call of nothing. -/
def callOf (positional : List Tree) (others : List Argument) : Tree :=
  .call .nothing
    (positional ++ others.filterMap fun
      | .positional tree => some tree
      | .keyword _ => none)
    (others.filterMap fun
      | .positional _ => none
      | .keyword unpacked => some unpacked)

/-- A named argument with a value for which parentheses are missing. -/
def equalsLoop : Reading (Option GrammarFault) := do
  let _ ← name
  sign "="
  let _ ← rule .expression
  loops rule
  return some .equalsForName

def blameKeyword : Reading Argument :=
  blame [
    do
      let word ← oneOf [("True", "True"), ("False", "False"), ("None", "None")]
      sign "="
      return some (.assignment word),
    equalsLoop rule,
    do
      notAhead (do
        let _ ← name
        sign "=")
      let _ ← rule .expression
      sign "="
      return some .keywordExpression]

def keyword : Reading Argument := do
  let _ ← name
  sign "="
  let _ ← rule .expression
  return .keyword false

def keywordOrStarred : Reading Argument :=
  first [ifExplaining (blameKeyword rule), keyword rule,
    do
      let tree ← starredArgument rule
      return .positional tree]

def keywordOrDoubleStarred : Reading Argument :=
  first [ifExplaining (blameKeyword rule), keyword rule,
    do
      sign "**"
      let _ ← rule .expression
      return .keyword true]

/-- The arguments from the first with a name on. -/
def keywords : Reading (List Argument) :=
  first [
    do
      let front ← listed (keywordOrStarred rule)
      sign ","
      let others ← listed (keywordOrDoubleStarred rule)
      return front ++ others,
    listed (keywordOrStarred rule),
    listed (keywordOrDoubleStarred rule)]

def positional : Reading Tree :=
  either (starredArgument rule) (do
    let tree ← either (assignment rule) (unassigned rule)
    notAhead (sign "=")
    return tree)

def someArguments : Reading Tree :=
  first [
    do
      let trees ← listed (positional rule)
      let others ← attempt (do
        sign ","
        keywords rule)
      return callOf trees (others.getD []),
    do
      let others ← keywords rule
      return callOf [] others]

def argumentsOf : Tree → List Tree × List Bool
  | .call _ positional unpacked => (positional, unpacked)
  | _ => ([], [])

def blameArguments : Reading Tree :=
  blame [
    do
      let _ ← either (do
        let _ ← listed (positional rule)
        sign ","
        keywords rule) (keywords rule)
      sign ","
      let _ ← listed (do
        let _ ← starredArgument rule
        notAhead (sign "="))
      return some .unpackingAfterKeywords,
    do
      let _ ← rule .expression
      loops rule
      sign ","
      let _ ← attempt (either (someArguments rule) (do
        let tree ← rule .expression
        loops rule
        return tree))
      return some .generatorArgument,
    equalsLoop rule,
    do
      let arguments ← someArguments rule
      loops rule
      return if 1 < (argumentsOf arguments).1.length then some .generatorArgument else none,
    do
      let _ ← someArguments rule
      sign ","
      let _ ← rule .expression
      loops rule
      return some .generatorArgument,
    do
      let arguments ← someArguments rule
      sign ","
      let _ ← someArguments rule
      return some (if (argumentsOf arguments).2.contains true then .positionalAfterUnpacking
        else .positionalAfterKeyword)]

def arguments : Reading Tree :=
  first [
    do
      let tree ← someArguments rule
      let _ ← attempt (sign ",")
      ahead (sign ")")
      return tree,
    ifExplaining (blameArguments rule)]

def memberTrailer : Reading (Tree → Tree) := do
  sign "."
  let _ ← name
  return .member

def generatorTrailer : Reading (Tree → Tree) := do
  let tree ← generator rule
  return fun callee => .call callee [tree] []

def callTrailer : Reading (Tree → Tree) := do
  sign "("
  let tree ← attempt (rule .arguments)
  sign ")"
  let (positional, unpacked) := argumentsOf (tree.getD (callOf [] []))
  return fun callee => .call callee positional unpacked

def trailer : Reading (Tree → Tree) :=
  first [memberTrailer, generatorTrailer rule, callTrailer rule]

end FormulaGraph.Literal.Grammar
