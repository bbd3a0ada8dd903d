import FormulaGraph.Literal.Grammar.Target

/-!
# Parsing a literal

`parse` reads a text as an expression. The rules of the grammar are applied once to find the
expression. If there is none they are applied again with forms of which it is known what is wrong
with them, so that the fault can be told.
-/

namespace FormulaGraph.Literal

open Reading

namespace Grammar

variable (rule : Rule → Reading Tree)

def plainExpression : Reading Tree :=
  explaining false (first [
    do
      let _ ← rule .disjunction
      sign "if"
      let _ ← rule .disjunction
      sign "else"
      let _ ← rule .expression
      return .conditional,
    rule .disjunction,
    function rule])

/-- Whether a name is a command of old, which took its arguments without parentheses. -/
def isCommand (tree : Tree) : Bool :=
  match tree.name? with
  | some id => id == "print" || id == "exec"
  | none => false

def blameExpression : Reading Tree :=
  blame [
    do
      notAhead (either (do
        let _ ← name
        let _ ← quotedToken) softName)
      let tree ← rule .disjunction
      let _ ← plainExpression rule
      let token ← last
      return if isCommand tree || token.depth = 0 then none else some .commaMissing,
    do
      let _ ← rule .disjunction
      sign "if"
      let _ ← rule .disjunction
      notAhead (either (sign "else") (sign ":"))
      return some .elseMissing]

def blameCommand : Reading Tree :=
  blame [do
    let id ← name
    notAhead (sign "(")
    let _ ← starExpressions rule
    return if isCommand (.name id) then some (.parenthesesMissing id) else none]

def expression : Reading Tree :=
  first [
    ifExplaining (blameExpression rule),
    ifExplaining (blameCommand rule),
    do
      let _ ← rule .disjunction
      sign "if"
      let _ ← rule .disjunction
      sign "else"
      let _ ← rule .expression
      return .conditional,
    rule .disjunction,
    function rule]

def blameNamed : Reading Tree :=
  blame [
    do
      let tree ← rule .expression
      sign ":="
      let _ ← rule .expression
      return some (.namedTarget tree.label),
    do
      let _ ← name
      sign "="
      let _ ← rule .bitOr
      notAhead (either (sign "=") (sign ":="))
      return some .equalsForName,
    do
      notAhead (first [tuple rule, generator rule,
        oneOf [("True", Tree.truth true), ("None", .nothing), ("False", .truth false)]])
      let tree ← rule .bitOr
      sign "="
      let _ ← rule .bitOr
      notAhead (either (sign "=") (sign ":="))
      return some (.equalsForOther tree.label)]

def body (read : List Char → Except Fault Unit) : Rule → Reading Tree
  | .expression => expression rule
  | .starExpression => either (starred (rule .bitOr)) (rule .expression)
  | .disjunction => joined (rule .conjunction) "or"
  | .conjunction => joined (rule .inversion) "and"
  | .inversion => negation rule (comparison rule)
  | .bitOr => chain (rule .bitXor) [("|", .other)]
  | .bitXor => chain (rule .bitAnd) [("^", .other)]
  | .bitAnd => chain (rule .shift) [("&", .other)]
  | .shift => chain (rule .sum) [("<<", .other), (">>", .other)]
  | .sum => chain (rule .term) [("+", .plus), ("-", .minus)]
  | .term =>
    chain (rule .factor)
      [("*", .other), ("/", .other), ("//", .other), ("%", .other), ("@", .other)]
  | .factor => signed rule (power rule)
  | .awaited => awaited rule
  | .primary => primary rule
  | .strings => strings read
  | .arguments => arguments rule
  | .starTarget => starTarget rule
  | .plainTarget => plainTarget rule
  | .targetPrimary => targetPrimary rule
  | .namedBlame => blameNamed rule

end Grammar

/-- The fault of tokens that form no expression, of which some had been asked for. That a text
cannot be split into tokens further on is told first. -/
def Source.toFault (source : Source) (cause : ParseFault) (reached : Nat) : ParseFault :=
  let line := match source.tokens[reached - 1]? with
    | some token => token.line
    | none => 1
  match source.stop, source.stop.overriding line with
  | .fault cause, _ => .token cause
  | _, some cause => .missing cause
  | _, none => cause

/-- The fault of a reading that stopped. Once the end of the text has been seen, nothing further on
is told. -/
def Halt.toFault (source : Source) : Halt → Fault
  | .missing =>
    match source.stop with
    | .fault cause => .parse (.token cause)
    | stop => .parse (.missing stop.missing)
  | .fault (.value cause) _ => .value cause
  | .fault (.parse cause) reached =>
    match source.tokens[reached - 1]? with
    | some token => .parse (if token.seesEnd then cause else source.toFault cause reached)
    | none => .parse (source.toFault cause reached)

/-- The fault of tokens of which the last that was asked for fits into no rule. -/
def misplaced (source : Source) (reached : Nat) : GrammarFault :=
  match (source.tokens[reached - 1]?).map Token.kind with
  | some .indent => .unexpectedIndent
  | some .outdent => .unexpectedOutdent
  | _ => .malformed

def Source.read (source : Source) (r : Reading Tree) : Except Fault Tree :=
  let start : Progress := ⟨0, 0, ∅⟩
  match r ⟨source, false⟩ start with
  | .ok (some tree, _) => .ok tree
  | .error halt => .error (halt.toFault source)
  | .ok (none, first) =>
    match r ⟨source, true⟩ start with
    | .error halt => .error (halt.toFault source)
    | .ok (_, second) =>
      match misplaced source first.reached with
      | .malformed =>
        .error (.parse (source.toFault (.grammar .malformed) (max first.reached second.reached)))
      | cause => .error (.parse (.grammar cause))

def maxDepth : Nat := 6000

/-- The rules of expressions, nested as deeply as the fuel says. -/
def ruleWithin : Nat → Rule → Reading Tree
  | 0, _ => refuse (.value .memory)
  | fuel + 1, which =>
    let rule := ruleWithin fuel
    let read (text : List Char) : Except Fault Unit :=
      match (Source.ofText (text ++ ['\n'])).read (Grammar.starExpressions rule) with
      | .ok _ => .ok ()
      | .error (.parse cause) => .error (.parse cause.embed)
      | .error cause => .error cause
    keep which (Grammar.body rule read which)

def whole : Reading Tree := do
  let tree ← Grammar.expressions (ruleWithin maxDepth .expression)
  let _ ← many (accept (·.kind = .lineEnd))
  let _ ← accept (·.kind = .ending)
  return tree

def parse (text : List Char) : Except Fault Tree :=
  let text := text.dropWhile fun c => c == ' ' || c == '\t'
  match Text.halves? text with
  | some (offset, codes) => .error (.value (.halves offset codes))
  | none =>
    if text.contains '\x00' then .error (.parse .nullByte)
    else (Source.ofText text).read whole

end FormulaGraph.Literal
