import FormulaGraph.Literal.Grammar.Name

/-!
# Displays

Brackets hold a group, the members of a tuple or a set, the entries of a dictionary, or a rule that
builds them from the values of a loop.
-/

namespace FormulaGraph.Literal.Grammar

open Reading

variable (rule : Rule → Reading Tree)

def assignment : Reading Tree := do
  let _ ← name
  sign ":="
  let _ ← rule .expression
  return .assigned

def unassigned : Reading Tree := do
  let tree ← rule .expression
  notAhead (sign ":=")
  return tree

def named : Reading Tree :=
  first [assignment rule, ifExplaining (rule .namedBlame), unassigned rule]

def starred (operand : Reading Tree) : Reading Tree := do
  sign "*"
  let tree ← operand
  return .starred tree

/-- An argument that is unpacked; there is nothing else that a star may start. -/
def starredArgument : Reading Tree :=
  either (starred (rule .expression)) (blame [do
    sign "*"
    return some .bareUnpacking])

def starNamed : Reading Tree := either (starred (rule .bitOr)) (named rule)

def starNameds : Reading (List Tree) := do
  let members ← listed (starNamed rule)
  let _ ← attempt (sign ",")
  return members

/-- Expressions, with a comma behind the last of several. One by itself is no tuple. -/
def expressions (operand : Reading Tree) : Reading Tree := do
  let tree ← operand
  let rest ← many (do
    sign ","
    operand)
  let comma ← attempt (sign ",")
  return if rest.isEmpty && comma.isNone then tree else .tuple (tree :: rest)

def starExpressions : Reading Tree := expressions (rule .starExpression)

def targets : Reading Unit := do
  let _ ← listed (rule .starTarget)
  let _ ← attempt (sign ",")
  return ()

/-- The start of a loop, in which what stands for its targets cannot be assigned to. -/
def blameLoop : Reading Unit :=
  blame [do
    let _ ← attempt (sign "async")
    sign "for"
    let tree ← starExpressions rule
    return tree.refusedTarget?.map fun part => .assignment part.label]

/-- A loop with its conditions. Behind its targets there is no other way to read it. -/
def loop : Reading Unit :=
  branch (do
      let _ ← attempt (sign "async")
      sign "for"
      targets rule
      sign "in")
    (fun _ => do
      let _ ← rule .disjunction
      let _ ← many (do
        sign "if"
        rule .disjunction)
      return ())
    (ifExplaining (blameLoop rule))

def loops : Reading Unit := do
  let _ ← several (loop rule)
  return ()

def openDisplay : Reading Unit := either (sign "(") (sign "\x7b")

/-- A rule that builds a collection from what cannot be built with. -/
def blameBuilder : Reading Tree :=
  blame [
    do
      openDisplay
      let _ ← starredArgument rule
      loops rule
      return some .comprehensionUnpacking,
    do
      sign "\x7b"
      let _ ← starNamed rule
      sign ","
      let _ ← starNameds rule
      loops rule
      return some .comprehensionTarget,
    do
      sign "\x7b"
      let _ ← starNamed rule
      sign ","
      loops rule
      return some .comprehensionTarget]

def generator : Reading Tree :=
  first [
    do
      sign "("
      let _ ← either (assignment rule) (unassigned rule)
      loops rule
      sign ")"
      return .generator,
    ifExplaining (blameBuilder rule)]

def yielded : Reading Tree :=
  first [
    do
      sign "yield"
      sign "from"
      let _ ← rule .expression
      return .yielded,
    do
      sign "yield"
      let _ ← attempt (starExpressions rule)
      return .yielded]

def group : Reading Tree :=
  first [
    do
      sign "("
      let tree ← either (yielded rule) (named rule)
      sign ")"
      return tree,
    ifExplaining (blame [
      do
        sign "("
        let _ ← starredArgument rule
        sign ")"
        return some .starred,
      do
        sign "("
        sign "**"
        let _ ← rule .expression
        sign ")"
        return some .doubleStarred])]

/-- A tuple in parentheses; that of a single member has a comma. -/
def tuple : Reading Tree := do
  sign "("
  let members ← attempt (do
    let member ← starNamed rule
    sign ","
    let rest ← attempt (starNameds rule)
    return member :: rest.getD [])
  sign ")"
  return .tuple (members.getD [])

def set : Reading Tree := do
  sign "\x7b"
  let members ← starNameds rule
  sign "\x7d"
  return .set members

def setBuilder : Reading Tree :=
  first [
    do
      sign "\x7b"
      let _ ← named rule
      loops rule
      sign "\x7d"
      return .setBuilder,
    ifExplaining (blameBuilder rule)]

def pair : Reading (Tree × Tree) := do
  let key ← rule .expression
  sign ":"
  let value ← rule .expression
  return (key, value)

def entry : Reading (Option Tree × Tree) :=
  either
    (do
      sign "**"
      let tree ← rule .bitOr
      return (none, tree))
    (do
      let (key, value) ← pair rule
      return (some key, value))

def starredEntry : Reading (Option GrammarFault) := do
  let _ ← rule .expression
  sign ":"
  sign "*"
  let _ ← rule .bitOr
  return some .starredEntry

def unfinishedEntry : Reading (Option GrammarFault) := do
  let _ ← rule .expression
  sign ":"
  ahead (either (sign "\x7d") (sign ","))
  return some .entryMissing

def blameEntry : Reading Unit :=
  blame [
    do
      let _ ← rule .expression
      notAhead (sign ":")
      return some .colonMissing,
    starredEntry rule,
    unfinishedEntry rule]

def blameEntries : Reading Unit :=
  blame [
    do
      let _ ← listed (entry rule)
      sign ","
      blameEntry rule
      return none,
    starredEntry rule,
    unfinishedEntry rule]

def dictionary : Reading Tree :=
  first [
    do
      sign "\x7b"
      let entries ← attempt (do
        let entries ← listed (entry rule)
        let _ ← attempt (sign ",")
        return entries)
      sign "\x7d"
      return .dictionary (entries.getD []),
    do
      sign "\x7b"
      blameEntries rule
      sign "\x7d"
      return .dictionary []]

def dictionaryBuilder : Reading Tree :=
  first [
    do
      sign "\x7b"
      let _ ← pair rule
      loops rule
      sign "\x7d"
      return .dictionaryBuilder,
    ifExplaining (blame [do
      sign "\x7b"
      sign "**"
      let _ ← rule .bitOr
      loops rule
      sign "\x7d"
      return some .dictionaryUnpacking])]

end FormulaGraph.Literal.Grammar
