import FormulaGraph.Literal.Format
import FormulaGraph.Literal.Grammar.Call
import FormulaGraph.Literal.Grammar.Lambda

/-!
# Operators and operands

The levels of operators, from the loosest to the closest: the choice by a condition, the truth
operators, comparisons, operators on bits, sums, products, signs and powers. Behind them stand the
operands: names, numbers, texts and displays.
-/

namespace FormulaGraph.Literal.Grammar

open Reading

variable (rule : Rule → Reading Tree)

/-- Operands with operators between them, which are applied from the left. -/
def chain (operand : Reading Tree) (operators : List (String × BinaryOp)) : Reading Tree := do
  let tree ← operand
  let rest ← many (do
    let op ← oneOf operators
    let right ← operand
    return (op, right))
  return rest.foldl (fun left (op, right) => .binary op left right) tree

/-- Operands with a word between them. -/
def joined (operand : Reading Tree) (word : String) : Reading Tree := do
  let tree ← operand
  let rest ← many (do
    sign word
    operand)
  return if rest.isEmpty then tree else .boolean

def negation (comparison : Reading Tree) : Reading Tree :=
  either (do
    sign "not"
    let tree ← rule .inversion
    return .unary .other tree) comparison

/-- An operator that compares, and whether it asks for membership. -/
def comparator : Reading Bool :=
  first [
    oneOf [("==", false), ("!=", false), ("<=", false), ("<", false), (">=", false), (">", false)],
    do
      sign "not"
      sign "in"
      return false,
    do
      sign "in"
      return true,
    do
      sign "is"
      let _ ← attempt (sign "not")
      return false]

def comparison : Reading Tree := do
  let tree ← rule .bitOr
  let rest ← many (do
    let membership ← comparator
    let _ ← rule .bitOr
    return membership)
  return match rest with
    | [] => tree
    | membership :: _ => .comparison tree membership

def signed (power : Reading Tree) : Reading Tree :=
  either (do
    let op ← oneOf [("+", UnaryOp.plus), ("-", .minus), ("~", .other)]
    let tree ← rule .factor
    return .unary op tree) power

def power : Reading Tree := do
  let tree ← rule .awaited
  either (do
    sign "**"
    let right ← rule .factor
    return .binary .other tree right) (return tree)

def awaited : Reading Tree :=
  either (do
    sign "await"
    let _ ← rule .primary
    return .awaited) (rule .primary)

def digitsNumber (base : Nat) (digits : List Char) : Nat :=
  digits.foldl (fun n c => base * n + (Text.hexValue? c).getD 0) 0

def figure (text : List Char) : Except GrammarFault Figure :=
  let plain := text.filter (· ≠ '_')
  let based (base : Nat) : Except GrammarFault Figure :=
    .ok (.integer (digitsNumber base (plain.drop 2)))
  match plain.map Char.toLower with
  | '0' :: 'x' :: _ => based 16
  | '0' :: 'o' :: _ => based 8
  | '0' :: 'b' :: _ => based 2
  | small =>
    if small.contains 'j' then .ok .imaginary
    else if small.all Char.isDigit then
      if Number.maxDigits < plain.length ∧ plain.head? ≠ some '0' then
        .error (.longInteger plain.length)
      else .ok (.integer (digitsNumber 10 plain))
    else .ok .real

def number : Reading Tree := do
  let token ← numberToken
  match figure token.text.toList with
  | .ok figure => return .number figure
  | .error cause => refuse (.parse (.grammar cause))

/-- A token of a text in quotes: the letters before it, in small letters, and what is between. -/
structure QuotedText where
  letters : List Char
  body : List Char

def QuotedText.ofToken (token : Token) : QuotedText :=
  let (letters, text) := token.text.toList.span fun c => c ≠ '\'' && c ≠ '"'
  let width := match text with
    | a :: b :: c :: _ :: _ => if a = b ∧ b = c then 3 else 1
    | _ => 1
  ⟨letters.map Char.toLower, (text.drop width).take (text.length - 2 * width)⟩

/-- Looks for what is wrong in texts in quotes that follow each other. Bytes and texts do not mix.
Expressions in a text are given to `read`. The result is whether a text may have some. -/
def checkQuoted (read : List Char → Except Fault Unit) (bytes : Option Bool) :
    List QuotedText → Except Fault Bool
  | [] => .ok false
  | text :: rest => do
    let refuse (cause : QuoteFault) : Fault := .parse (.grammar (.quote cause))
    let raw := text.letters.contains 'r'
    let inBytes := text.letters.contains 'b'
    let formatted := text.letters.contains 'f'
    if inBytes ∧ text.body.any (128 ≤ ·.toNat) then .error (refuse .nonAscii)
    if !formatted ∧ !raw then
      (if inBytes then Escape.checkByteEscapes 0 text.body
        else Escape.checkEscapes text.body).mapError refuse
    if bytes = some !inBytes then .error (refuse .mixedBytes)
    if formatted then
      let _ ← Format.check read raw false 2 (text.body.length + 1) text.body
    let more ← checkQuoted read (some inBytes) rest
    return formatted || more

def strings (read : List Char → Except Fault Unit) : Reading Tree := do
  let tokens ← several quotedToken
  match checkQuoted read none (tokens.map QuotedText.ofToken) with
  | .ok formatted => return if formatted then .formatted else .text
  | .error cause => refuse cause

def atom : Reading Tree :=
  first [
    do
      let id ← name
      return .name id,
    oneOf [("True", Tree.truth true), ("False", .truth false), ("None", .nothing)],
    do
      ahead quotedToken
      rule .strings,
    number,
    do
      ahead (sign "(")
      first [tuple rule, group rule, generator rule],
    do
      ahead (sign "\x7b")
      first [dictionary rule, set rule, dictionaryBuilder rule, setBuilder rule],
    do
      sign "..."
      return .dots]

def primary : Reading Tree := do
  let tree ← atom rule
  let trailers ← many (trailer rule)
  return trailers.foldl (fun tree trailer => trailer tree) tree

end FormulaGraph.Literal.Grammar
