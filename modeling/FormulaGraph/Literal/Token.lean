import FormulaGraph.Literal.Numeral
import FormulaGraph.Text.Letter

/-!
# Tokens of a literal

A text is a sequence of words, numbers, texts in quotes and symbols, between blanks and comments.
Outside brackets the ends of lines and the indentation count as well. `Source.ofText` splits a text
into its tokens up to where that fails; a backslash at the end of a line joins it to the next.
-/

namespace FormulaGraph.Literal

inductive Kind where
  | word
  | number
  | quoted
  | symbol
  | lineEnd
  | indent
  | outdent
  /-- The end of the text. -/
  | ending
deriving DecidableEq

/-- A token: its kind, its text, the number of the line where it starts, how many brackets are open
behind it, and whether the end of the text has to be seen to find its end. -/
structure Token where
  kind : Kind
  text : String
  line : Nat
  depth : Nat
  seesEnd : Bool

structure Bracket where
  opening : Char
  line : Nat

inductive Stop where
  /-- All of the text has been split. -/
  | finished
  /-- The text cannot be split further. -/
  | fault (cause : TokenFault)
  /-- The text cannot be split further, which is noticed only if another token is asked for; the
  innermost open bracket is known. -/
  | quiet (cause : TokenFault) (innermost : Option Bracket)

/-- The tokens of a text, and why they end. -/
structure Source where
  tokens : Array Token
  stop : Stop

/-- The state of the division of a text into tokens: the rest of the text, the number of the line,
the open brackets and the indentations of the lines around, both innermost first, and whether a
line begins. An indentation is measured with tabs as wide as eight blanks and as one. -/
structure Scan where
  rest : List Char
  line : Nat
  brackets : List Bracket
  indents : List (Nat × Nat)
  fresh : Bool

inductive Step where
  /-- Tokens, of which there may be none. -/
  | tokens (found : List Token) (next : Scan)
  | stop (reason : Stop)

namespace Scan

def maxBrackets : Nat := 200

def maxIndents : Nat := 100

/-- A token at the current line, with the rest of the text behind it. It may be that a longer token
could start in the same way. -/
def token (s : Scan) (kind : Kind) (text rest : List Char) (mayGoOn : Bool) : Step :=
  let seesEnd := mayGoOn && rest.isEmpty
  .tokens [⟨kind, String.ofList text, s.line, s.brackets.length, seesEnd⟩] { s with rest }

def mark (s : Scan) (kind : Kind) : Token := ⟨kind, "", s.line, 0, false⟩

/-- The end of the tokens for a reason that is not spoken of until a token is missed. -/
def quiet (s : Scan) (cause : TokenFault) : Step := .stop (.quiet cause s.brackets.head?)

/-- The indentation at the front of a text in both measures, the number of its last line and what
follows it. Joined lines are indented as the first of them is. -/
def indentation (column tabless kept line : Nat) :
    List Char → Except TokenFault ((Nat × Nat) × Nat × List Char)
  | ' ' :: rest => indentation (column + 1) (tabless + 1) kept line rest
  | '\t' :: rest => indentation ((column / 8 + 1) * 8) (tabless + 1) kept line rest
  | '\x0c' :: rest => indentation 0 0 kept line rest
  | '\\' :: '\n' :: rest =>
    if rest.isEmpty then .error .endOfText
    else indentation column tabless (if kept = 0 then column else kept) (line + 1) rest
  | '\\' :: _ => .error .continuation
  | rest => .ok (if kept = 0 then (column, tabless) else (kept, kept), line, rest)

def indent (s : Scan) (measure : Nat × Nat) : Step :=
  let current := s.indents.headD (0, 0)
  if measure.1 = current.1 then
    if measure.2 = current.2 then .tokens [] s else s.quiet .tabs
  else if current.1 < measure.1 then
    if maxIndents ≤ s.indents.length + 1 then s.quiet .tooManyIndents
    else if measure.2 ≤ current.2 then s.quiet .tabs
    else .tokens [s.mark .indent] { s with indents := measure :: s.indents }
  else
    let kept := s.indents.dropWhile fun outer => measure.1 < outer.1
    let outer := kept.headD (0, 0)
    if measure.1 ≠ outer.1 then s.quiet .outdent
    else if measure.2 ≠ outer.2 then s.quiet .tabs
    else
      .tokens (List.replicate (s.indents.length - kept.length) (s.mark .outdent))
        { s with indents := kept }

/-- The start of a line. A line with nothing but a comment is passed over. -/
def lineStart (s : Scan) : Step :=
  match indentation 0 0 0 s.line s.rest with
  | .error cause => s.quiet cause
  | .ok (measure, line, rest) =>
    let s := { s with line, rest, fresh := false }
    let blank := match rest with
      | c :: _ => c == '#' || c == '\n'
      | [] => false
    if !s.brackets.isEmpty then .tokens [] s
    else if blank then
      match rest.dropWhile (· ≠ '\n') with
      | _ :: rest => .tokens [] { s with rest, line := line + 1, fresh := true }
      | [] => .tokens [] { s with rest := [] }
    else s.indent measure

/-- What follows a text in single quotes that is open. The result of a failure is the line. -/
def closeQuote (quote : Char) : Nat → List Char → Except Nat (Nat × List Char)
  | line, '\\' :: c :: rest => closeQuote quote (if c = '\n' then line + 1 else line) rest
  | line, c :: rest =>
    if c = '\n' then .error line
    else if c = quote then .ok (line, rest)
    else closeQuote quote line rest
  | line, [] => .error line

/-- What follows a text in tripled quotes that is open, of which some have been found at its end. -/
def closeTriple (quote : Char) : Nat → Nat → List Char → Except Nat (Nat × List Char)
  | _, line, '\\' :: c :: rest => closeTriple quote 0 (if c = '\n' then line + 1 else line) rest
  | found, line, c :: rest =>
    if c = quote then
      if found = 2 then .ok (line, rest) else closeTriple quote (found + 1) line rest
    else closeTriple quote 0 (if c = '\n' then line + 1 else line) rest
  | _, line, [] => .error line

def quoted (s : Scan) (letters : List Char) (quote : Char) (rest : List Char) : Step :=
  let (tripled, found) := match rest with
    | c :: d :: more =>
      if c = quote ∧ d = quote then (true, closeTriple quote 0 s.line more)
      else (false, closeQuote quote s.line rest)
    | _ => (false, closeQuote quote s.line rest)
  match found with
  | .error line => .stop (.fault (.unterminated tripled line))
  | .ok (line, after) =>
    let body := rest.take (rest.length - after.length)
    let text := String.ofList (letters ++ quote :: body)
    .tokens [⟨.quoted, text, s.line, s.brackets.length, false⟩] { s with rest := after, line }

def quoteLetters : List (List Char) :=
  [[], ['b'], ['f'], ['r'], ['u'], ['b', 'r'], ['r', 'b'], ['f', 'r'], ['r', 'f']]

def word (s : Scan) : Step :=
  let word := s.rest.takeWhile Numeral.inWord
  let rest := s.rest.dropWhile Numeral.inWord
  let plain := s.token .word word rest true
  let named :=
    match word with
    | [] => plain
    | first :: more =>
      if word.all (·.toNat < 128) then plain
      else if !Text.startsName first then .stop (.fault (.character first))
      else
        match more.find? fun c => !Text.isNamePart c with
        | some c => .stop (.fault (.character c))
        | none => plain
  match rest with
  | quote :: after =>
    if (quote = '\'' ∨ quote = '"') ∧ quoteLetters.contains (word.map Char.toLower) then
      s.quoted word quote after
    else named
  | [] => named

def number (s : Scan) (found : Except TokenFault (List Char)) : Step :=
  match found with
  | .error cause => .stop (.fault cause)
  | .ok rest => s.token .number (s.rest.take (s.rest.length - rest.length)) rest true

def closing : Char → Char
  | '(' => ')'
  | '[' => ']'
  | _ => '}'

def longSymbols : List String := ["**=", "//=", "<<=", ">>=", "..."]

def pairSymbols : List String :=
  ["!=", "%=", "&=", "**", "*=", "+=", "-=", "->", "//", "/=", ":=", "<<", "<=", "<>", "==", ">=",
   ">>", "@=", "^=", "|="]

def symbol (s : Scan) (c : Char) (rest : List Char) : Step :=
  let short (n : Nat) := String.ofList (s.rest.take n)
  if longSymbols.contains (short 3) then s.token .symbol (s.rest.take 3) (s.rest.drop 3) false
  else if pairSymbols.contains (short 2) then s.token .symbol (s.rest.take 2) (s.rest.drop 2) true
  else if c = '(' ∨ c = '[' ∨ c = '{' then
    if maxBrackets ≤ s.brackets.length then .stop (.fault .tooManyBrackets)
    else { s with brackets := ⟨c, s.line⟩ :: s.brackets }.token .symbol [c] rest true
  else if c = ')' ∨ c = ']' ∨ c = '}' then
    match s.brackets with
    | [] => .stop (.fault (.unmatched c))
    | bracket :: outer =>
      if closing bracket.opening = c then { s with brackets := outer }.token .symbol [c] rest true
      else
        let line := if bracket.line = s.line then none else some bracket.line
        .stop (.fault (.mismatched c bracket.opening line))
  else if Text.isPrintable c then s.token .symbol [c] rest true
  else .stop (.fault (.character c))

def inLine (s : Scan) : Step :=
  match s.rest with
  | [] =>
    if s.brackets.isEmpty then .stop .finished else s.quiet .endOfText
  | c :: rest =>
    if c = ' ' ∨ c = '\t' ∨ c = '\x0c' then .tokens [] { s with rest }
    else if c = '#' then .tokens [] { s with rest := rest.dropWhile (· ≠ '\n') }
    else if c = '\n' then
      let next := { s with rest, line := s.line + 1, fresh := true }
      if s.brackets.isEmpty then .tokens [s.mark .lineEnd] next else .tokens [] next
    else if c = '\\' then
      match rest with
      | '\n' :: [] => s.quiet .endOfText
      | '\n' :: rest => .tokens [] { s with rest, line := s.line + 1 }
      | _ => s.quiet .continuation
    else if c.isDigit then s.number (Numeral.skip s.rest)
    else if Numeral.inWord c then s.word
    else if c = '\'' ∨ c = '"' then s.quoted [] c rest
    else
      match c, rest with
      | '.', d :: _ => if d.isDigit then s.number (Numeral.skipFraction rest) else s.symbol c rest
      | _, _ => s.symbol c rest

def next (s : Scan) : Step := if s.fresh then s.lineStart else s.inLine

/-- All tokens that are next, at most as many steps away as the fuel says. -/
def run : Nat → Scan → Array Token → Source
  | 0, _, found => ⟨found, .finished⟩
  | fuel + 1, s, found =>
    match s.next with
    | .tokens more s => run fuel s (found ++ more)
    | .stop .finished => ⟨found.push (s.mark .ending), .finished⟩
    | .stop reason => ⟨found, reason⟩

end Scan

def unifyLines : List Char → List Char
  | '\r' :: '\n' :: rest => '\n' :: unifyLines rest
  | '\r' :: rest => '\n' :: unifyLines rest
  | c :: rest => c :: unifyLines rest
  | [] => []

def Source.ofText (text : List Char) : Source :=
  let text := unifyLines text
  Scan.run (2 * text.length + 2) ⟨text, 1, [], [], true⟩ #[]

def Stop.missing : Stop → TokenFault
  | .finished => .endOfText
  | .fault cause => cause
  | .quiet .endOfText (some bracket) => .unclosed bracket.opening
  | .quiet cause _ => cause

/-- Whether the end of the tokens is at fault although no token is missed. A bracket that is never
closed is, if tokens on later lines have been read. -/
def Stop.overriding (line : Nat) : Stop → Option TokenFault
  | .finished => none
  | .fault cause => some cause
  | .quiet _ (some bracket) =>
    if bracket.line < line then some (.unclosed bracket.opening) else none
  | .quiet _ none => none

end FormulaGraph.Literal
