import FormulaGraph.Literal.Escape

/-!
# Texts with expressions

In a formatted text, expressions stand in braces among plain text, in which a brace is written
twice. A conversion and a layout may follow an expression; a layout is formatted text itself, at
most one deep. `check` looks for the first thing that is wrong, and leaves the expressions to its
caller.
-/

namespace FormulaGraph.Literal.Format

def isBrace (c : Char) : Bool := c == '\x7b' || c == '\x7d'

/-- A piece of plain text: its characters, what follows, and whether it ends in a doubled brace. -/
structure Piece where
  plain : List Char
  rest : List Char
  doubled : Bool

def Piece.push (c : Char) (p : Piece) : Piece := { p with plain := c :: p.plain }

def skipName : List Char → List Char
  | '\x7b' :: rest => (rest.dropWhile (· ≠ '\x7d')).drop 1
  | _ :: rest => rest
  | [] => []

/-- The plain text up to a brace. In a layout, braces are not doubled. -/
def piece (raw inLayout : Bool) : Nat → List Char → Except FormatFault Piece
  | 0, text => .ok ⟨[], text, false⟩
  | fuel + 1, text =>
    let upTo (before : List Char) (brace : Char) (rest : List Char) : Except FormatFault Piece :=
      if inLayout then .ok ⟨before, brace :: rest, false⟩
      else if rest.head? = some brace then .ok ⟨before ++ [brace], rest.drop 1, true⟩
      else if brace = '\x7d' then .error .singleBrace
      else .ok ⟨before, brace :: rest, false⟩
    match text with
    | [] => .ok ⟨[], [], false⟩
    | c :: rest =>
      if c = '\\' ∧ !raw then
        match rest with
        | [] => .ok ⟨[c], [], false⟩
        | mark :: after =>
          if mark = 'N' then
            let behind := skipName after
            (piece raw inLayout fuel behind).map fun p =>
              { p with plain := c :: mark :: after.take (after.length - behind.length) ++ p.plain }
          else if isBrace mark then upTo [c] mark after
          else (piece raw inLayout fuel after).map fun p => (p.push mark).push c
      else if isBrace c then upTo [] c rest
      else (piece raw inLayout fuel rest).map (·.push c)

structure Quote where
  char : Char
  tripled : Bool

/-- The expression up to what ends it, and what follows. `reversed` is what has been passed over in
reverse, and `opened` the open brackets, innermost first. -/
def expression (quote : Option Quote) (opened : List Char) (reversed : List Char) :
    List Char → Except FormatFault (List Char × List Char)
  | [] =>
    match quote, opened with
    | some _, _ => .error .unterminated
    | none, bracket :: _ => .error (.unmatched bracket)
    | none, [] => .error .braceMissing
  | c :: rest =>
    if c = '\\' then .error .backslash
    else
      match quote with
      | some ending =>
        if c = ending.char then
          if ending.tripled then
            match rest with
            | d :: e :: more =>
              if d = c ∧ e = c then expression none opened (e :: d :: c :: reversed) more
              else expression quote opened (c :: reversed) (d :: e :: more)
            | rest => expression quote opened (c :: reversed) rest
          else expression none opened (c :: reversed) rest
        else expression quote opened (c :: reversed) rest
      | none =>
        if c = '\'' ∨ c = '"' then
          match rest with
          | d :: e :: more =>
            if d = c ∧ e = c then expression (some ⟨c, true⟩) opened (e :: d :: c :: reversed) more
            else expression (some ⟨c, false⟩) opened (c :: reversed) (d :: e :: more)
          | rest => expression (some ⟨c, false⟩) opened (c :: reversed) rest
        else if c = '[' ∨ c = '\x7b' ∨ c = '(' then
          if 200 ≤ opened.length then .error .tooManyBrackets
          else expression none (c :: opened) (c :: reversed) rest
        else if c = '#' then .error .comment
        else if opened.isEmpty ∧ ['!', ':', '\x7d', '=', '>', '<'].contains c then
          match rest with
          | '=' :: more =>
            if c = ':' ∨ c = '\x7d' then .ok (reversed.reverse, c :: rest)
            else expression none opened ('=' :: c :: reversed) more
          | rest =>
            if c = '>' ∨ c = '<' then expression none opened (c :: reversed) rest
            else .ok (reversed.reverse, c :: rest)
        else if c = ']' ∨ c = '\x7d' ∨ c = ')' then
          match opened with
          | [] => .error (.unmatched c)
          | bracket :: outer =>
            if (bracket, c) = ('(', ')') ∨ (bracket, c) = ('[', ']') ∨
                (bracket, c) = ('\x7b', '\x7d') then
              expression none outer (c :: reversed) rest
            else .error (.mismatched c bracket)
        else expression none opened (c :: reversed) rest
termination_by text => text.length

def skipEcho (text : List Char) : Except FormatFault (List Char) :=
  match text with
  | '=' :: rest =>
    let rest := rest.dropWhile fun c => c == ' ' || ('\t' ≤ c && c ≤ '\r')
    if rest.isEmpty then .error .braceMissing else .ok rest
  | text => .ok text

def skipConversion (text : List Char) : Except FormatFault (List Char) :=
  match text with
  | '!' :: rest =>
    match rest with
    | [] => .error .braceMissing
    | c :: rest => if c = 's' ∨ c = 'r' ∨ c = 'a' then .ok rest else .error .conversion
  | text => .ok text

def fault (cause : FormatFault) : Fault := .parse (.grammar (.format cause))

/-- An expression that holds more than blanks. The text behind it ends it. -/
def checkBlank (text rest : List Char) : Except FormatFault Unit :=
  if text.all fun c => c == ' ' || c == '\t' || c == '\n' || c == '\x0c' then
    match rest with
    | c :: _ => .error (if c = '\x7d' then .emptyExpression else .expressionMissing c)
    | [] => .error .emptyExpression
  else .ok ()

/-- Looks for what is wrong in a formatted text, and gives what follows it. Layouts may be nested
`deeper` times. An expression is given to `read` in parentheses. -/
def check (read : List Char → Except Fault Unit) (raw : Bool) (inLayout : Bool) (deeper : Nat) :
    Nat → List Char → Except Fault (List Char)
  | 0, text => .ok text
  | fuel + 1, text => do
    let p ← (piece raw inLayout (text.length + 1) text).mapError fault
    if !raw then
      (Escape.checkEscapes p.plain).mapError fun cause => .parse (.grammar (.quote cause))
    if p.doubled then check read raw inLayout deeper fuel p.rest
    else
      match p.rest with
      | '\x7b' :: body =>
        if deeper = 0 then .error (fault .tooDeep)
        else
          let (inner, rest) ← (expression none [] [] body).mapError fault
          (checkBlank inner rest).mapError fault
          read ('(' :: inner ++ [')'])
          let rest ← (skipEcho rest).mapError fault
          let rest ← (skipConversion rest).mapError fault
          let rest ← match rest with
            | ':' :: layout =>
              if layout.isEmpty then .error (fault .braceMissing)
              else check read raw true (deeper - 1) fuel layout
            | rest => .ok rest
          match rest with
          | '\x7d' :: rest => check read raw inLayout deeper fuel rest
          | _ => .error (fault .braceMissing)
      | rest =>
        if inLayout ∧ rest.isEmpty then .error (fault .braceMissing) else .ok rest

end FormulaGraph.Literal.Format
