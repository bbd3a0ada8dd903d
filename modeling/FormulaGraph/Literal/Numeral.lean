import FormulaGraph.Literal.Fault

/-!
# Numerals

`Numeral.skip` finds the end of a number at the front of a text: digits with single underscores
between them, in base ten with a fraction, an exponent and the unit of imaginary numbers, or in base
two, eight or sixteen behind a mark. Only some words may follow a number directly.
-/

namespace FormulaGraph.Literal.Numeral

/-- Whether a character may stand in a word, as far as its end is concerned. -/
def inWord (c : Char) : Bool := c.isAlphanum || c == '_' || 128 ≤ c.toNat

def wordAhead (word : String) (text : List Char) : Bool :=
  word.toList.isPrefixOf text &&
    match text.drop word.length with
    | c :: _ => !inWord c
    | [] => true

/-- Whether the text behind a number starts with a word that may follow it. -/
def mayFollow (text : List Char) : Bool :=
  ["and", "else", "for", "or", "not"].any (wordAhead · text) ||
    match text with
    | 'i' :: c :: _ => c == 'f' || c == 'n' || c == 's'
    | _ => false

/-- The text behind a number, unless the number runs into a word of ASCII. -/
def finish (how : Numeral) (text : List Char) : Except TokenFault (List Char) :=
  match text with
  | [] => .ok []
  | c :: _ =>
    if inWord c && c.toNat < 128 && !mayFollow text then .error (.number how) else .ok text

def skipDigits : List Char → Except TokenFault (List Char)
  | [] => .ok []
  | '_' :: rest =>
    match rest with
    | d :: rest => if d.isDigit then skipDigits rest else .error (.number .decimal)
    | [] => .error (.number .decimal)
  | d :: rest => if d.isDigit then skipDigits rest else .ok (d :: rest)

def skipUnit : List Char → Except TokenFault (List Char)
  | 'j' :: rest => finish .imaginary rest
  | 'J' :: rest => finish .imaginary rest
  | text => finish .decimal text

/-- What follows an exponent with its mark. A mark without digits is no part of the number. -/
def skipExponent (mark : Char) (rest : List Char) : Except TokenFault (List Char) :=
  match rest with
  | [] => finish .decimal (mark :: rest)
  | d :: more =>
    if d = '+' || d = '-' then
      match more with
      | d :: more =>
        if d.isDigit then skipDigits more >>= skipUnit else .error (.number .decimal)
      | [] => .error (.number .decimal)
    else if d.isDigit then skipDigits more >>= skipUnit
    else finish .decimal (mark :: rest)

def skipTail : List Char → Except TokenFault (List Char)
  | 'e' :: rest => skipExponent 'e' rest
  | 'E' :: rest => skipExponent 'E' rest
  | text => skipUnit text

def skipFraction : List Char → Except TokenFault (List Char)
  | d :: rest => if d.isDigit then skipDigits rest >>= skipTail else skipTail (d :: rest)
  | [] => skipTail []

def skipWhole : List Char → Except TokenFault (List Char)
  | '.' :: rest => skipFraction rest
  | text => skipTail text

def skipZeros : List Char → Except TokenFault (List Char)
  | [] => .ok []
  | '_' :: rest =>
    match rest with
    | '0' :: rest => skipZeros rest
    | d :: rest => if d.isDigit then .ok (d :: rest) else .error (.number .decimal)
    | [] => .error (.number .decimal)
  | '0' :: rest => skipZeros rest
  | text => .ok text

/-- What follows a number that starts with a zero. Other digits may follow zeros only in a number
that is no integer. -/
def skipLeadingZeros (text : List Char) : Except TokenFault (List Char) := do
  match ← skipZeros text with
  | d :: rest =>
    if d.isDigit then
      match ← skipDigits rest with
      | [] => .error .leadingZeros
      | c :: more =>
        if ['.', 'e', 'E', 'j', 'J'].contains c then skipWhole (c :: more)
        else .error .leadingZeros
    else skipWhole (d :: rest)
  | [] => .ok []

/-- What follows digits of a base. At first, and after an underscore, there must be one. -/
def skipBased (how : Numeral) (isBaseDigit : Char → Bool) :
    Bool → List Char → Except TokenFault (List Char)
  | needed, [] => if needed then .error (.number how) else .ok []
  | needed, c :: rest =>
    if isBaseDigit c then skipBased how isBaseDigit false rest
    else if c.isDigit then .error (.digit c how)
    else if needed then .error (.number how)
    else if c = '_' then skipBased how isBaseDigit true rest
    else finish how (c :: rest)

def skipMarked (how : Numeral) (isBaseDigit : Char → Bool) :
    List Char → Except TokenFault (List Char)
  | '_' :: rest => skipBased how isBaseDigit true rest
  | text => skipBased how isBaseDigit true text

def skip : List Char → Except TokenFault (List Char)
  | '0' :: 'x' :: rest => skipMarked .hexadecimal (fun c => (Text.hexValue? c).isSome) rest
  | '0' :: 'X' :: rest => skipMarked .hexadecimal (fun c => (Text.hexValue? c).isSome) rest
  | '0' :: 'o' :: rest => skipMarked .octal (fun c => '0' ≤ c && c < '8') rest
  | '0' :: 'O' :: rest => skipMarked .octal (fun c => '0' ≤ c && c < '8') rest
  | '0' :: 'b' :: rest => skipMarked .binary (fun c => c == '0' || c == '1') rest
  | '0' :: 'B' :: rest => skipMarked .binary (fun c => c == '0' || c == '1') rest
  | '0' :: rest => skipLeadingZeros rest
  | _ :: rest => skipDigits rest >>= skipWhole
  | [] => .ok []

end FormulaGraph.Literal.Numeral
