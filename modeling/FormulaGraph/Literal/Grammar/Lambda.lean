import FormulaGraph.Literal.Grammar.Name

/-!
# Functions without a name

The parameters of a function stand between a word and a colon: those that are given by position
alone before a slash, those that are given by name alone behind a star, and those that take what is
left behind one or two stars. A parameter with a default is followed by such only, up to the star.
-/

namespace FormulaGraph.Literal.Grammar

open Reading

variable (rule : Rule → Reading Tree)

/-- A reading of which the result does not count. -/
def passed {α : Type} (r : Reading α) : Reading Unit := do
  let _ ← r

def parameterEnd : Reading Unit := either (sign ",") (ahead (sign ":"))

def defaultValue : Reading Unit :=
  first [
    do
      sign "="
      passed (rule .expression),
    ifExplaining (blame [do
      sign "="
      ahead (either (sign ")") (sign ","))
      return some .defaultMissing])]

def plainParameter : Reading Unit := do
  passed name
  parameterEnd

def defaultParameter : Reading Unit := do
  passed name
  defaultValue rule
  parameterEnd

def parameter : Reading Unit := do
  passed name
  passed (attempt (defaultValue rule))
  parameterEnd

def slashEnd : Reading Unit := do
  sign "/"
  parameterEnd

def plainUpToSlash : Reading Unit := do
  passed (several plainParameter)
  slashEnd

def defaultUpToSlash : Reading Unit := do
  passed (many plainParameter)
  passed (several (defaultParameter rule))
  slashEnd

/-- What takes the named arguments that are left. -/
def doubleStarParameter : Reading Unit :=
  first [
    ifExplaining (blame [
      do
        sign "**"
        passed name
        sign "="
        return some .doubleStarDefault,
      do
        sign "**"
        passed name
        sign ","
        passed name
        return some .afterDoubleStar,
      do
        sign "**"
        passed name
        sign ","
        first [sign "*", sign "**", sign "/"]
        return some .afterDoubleStar]),
    do
      sign "**"
      plainParameter]

/-- What a star starts among the parameters. -/
def starParameters : Reading Unit :=
  first [
    ifExplaining (blame [
      do
        sign "*"
        either (sign ":") (do
          sign ","
          either (sign ":") (sign "**"))
        return some .bareStar,
      do
        sign "*"
        passed name
        sign "="
        return some .starDefault,
      do
        sign "*"
        either plainParameter (sign ",")
        passed (many (parameter rule))
        sign "*"
        either plainParameter (sign ",")
        return some .starTwice]),
    do
      sign "*"
      plainParameter
      passed (many (parameter rule))
      passed (attempt doubleStarParameter),
    do
      sign "*"
      sign ","
      passed (several (parameter rule))
      passed (attempt doubleStarParameter),
    doubleStarParameter]

def blameParameters : Reading Unit :=
  blame [
    do
      passed (many plainParameter)
      either (defaultUpToSlash rule) (passed (several (defaultParameter rule)))
      plainParameter
      return some .defaultOrder,
    do
      passed (many plainParameter)
      sign "("
      passed (listed name)
      passed (attempt (sign ","))
      sign ")"
      return some .parenthesizedParameters,
    do
      sign "/"
      sign ","
      return some .slashFirst,
    do
      either plainUpToSlash (defaultUpToSlash rule)
      passed (many (parameter rule))
      sign "/"
      return some .slashTwice,
    do
      passed (attempt (either plainUpToSlash (defaultUpToSlash rule)))
      passed (many (parameter rule))
      sign "*"
      either (sign ",") plainParameter
      passed (many (parameter rule))
      sign "/"
      return some .slashAfterStar,
    do
      passed (several (parameter rule))
      sign "/"
      sign "*"
      return some .commaAfterSlash]

def parameters : Reading Unit :=
  first [
    ifExplaining (blameParameters rule),
    do
      plainUpToSlash
      passed (many plainParameter)
      passed (many (defaultParameter rule))
      passed (attempt (starParameters rule)),
    do
      defaultUpToSlash rule
      passed (many (defaultParameter rule))
      passed (attempt (starParameters rule)),
    do
      passed (several plainParameter)
      passed (many (defaultParameter rule))
      passed (attempt (starParameters rule)),
    do
      passed (several (defaultParameter rule))
      passed (attempt (starParameters rule)),
    starParameters rule]

def function : Reading Tree := do
  sign "lambda"
  passed (attempt (parameters rule))
  sign ":"
  passed (rule .expression)
  return .function

end FormulaGraph.Literal.Grammar
