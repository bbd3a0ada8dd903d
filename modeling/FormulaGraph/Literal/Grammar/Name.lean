import FormulaGraph.Literal.Reading

/-!
# Names

A name is a word that has no meaning of its own. Three words have one only at certain places and are
names elsewhere.
-/

namespace FormulaGraph.Literal.Grammar

open Reading

def reserved : List String :=
  ["False", "None", "True", "and", "as", "assert", "async", "await", "break", "class", "continue",
   "def", "del", "elif", "else", "except", "finally", "for", "from", "global", "if", "import", "in",
   "is", "lambda", "nonlocal", "not", "or", "pass", "raise", "return", "try", "while", "with",
   "yield"]

def name : Reading String := do
  let token ← accept fun t => t.kind = .word && !reserved.contains t.text
  return token.text

/-- A name that has a meaning at certain places, or the front of one. -/
def softName : Reading Unit := do
  let _ ← accept fun t => t.kind = .word &&
    ["_", "case", "match"].any fun soft => t.text.toList.isPrefixOf soft.toList

def quotedToken : Reading Token := accept (·.kind = .quoted)

def numberToken : Reading Token := accept (·.kind = .number)

def oneOf {α : Type} : List (String × α) → Reading α
  | [] => absent
  | (text, meaning) :: rest =>
    either (do
      sign text
      return meaning) (oneOf rest)

end FormulaGraph.Literal.Grammar
