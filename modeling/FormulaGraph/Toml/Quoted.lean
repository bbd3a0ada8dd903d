import FormulaGraph.Text.Digit

/-!
# Quoted texts in configuration files

A text stands between double quotes, with escapes, or between single quotes, as it is. Between three
quotes of either kind it may have several lines. A reader gives the text and what follows it, or
none where there is no such text.
-/

namespace FormulaGraph.Toml

def isSpace (c : Char) : Bool := c == ' ' || c == '\t'

def isSpaceOrLineEnd (c : Char) : Bool := isSpace c || c == '\n'

def isBarred (c : Char) : Bool := (c.toNat < 32 && c != '\t' && c != '\n') || c.toNat == 127

def isBarredIn (multiline : Bool) (c : Char) : Bool := isBarred c || (c == '\n' && !multiline)

def readLiteral : List Char → Option (List Char × List Char)
  | [] => none
  | '\'' :: rest => some ([], rest)
  | c :: rest =>
    if isBarredIn false c then none
    else (readLiteral rest).map fun (text, after) => (c :: text, after)

def readLiteralBlock : List Char → Option (List Char × List Char)
  | [] => none
  | '\'' :: '\'' :: '\'' :: rest => some ([], rest)
  | c :: rest =>
    if isBarredIn true c then none
    else (readLiteralBlock rest).map fun (text, after) => (c :: text, after)

def hexNumber? (digits : List Char) : Option Nat :=
  digits.foldlM (fun n c => (Text.hexValue? c).map (16 * n + ·)) 0

def readCode (digits : Nat) (text : List Char) : Option (Char × List Char) :=
  if text.length < digits then none
  else
    match hexNumber? (text.take digits) with
    | none => none
    | some n => if h : n.isValidChar then some (Char.ofNatAux n h, text.drop digits) else none

def shortEscape? : Char → Option Char
  | 'b' => some '\x08'
  | 't' => some '\t'
  | 'n' => some '\n'
  | 'f' => some '\x0c'
  | 'r' => some '\r'
  | '"' => some '"'
  | '\\' => some '\\'
  | _ => none

/-- What follows a backslash at the end of a line: the first character that is no space, tab or line
feed. Up to the end of the line there may be spaces and tabs alone. -/
def skipLineEnd (text : List Char) : Option (List Char) :=
  match text.dropWhile isSpace with
  | [] => some []
  | '\n' :: rest => some (rest.dropWhile isSpaceOrLineEnd)
  | _ => none

def readEscape (multiline : Bool) (text : List Char) : Option (List Char × List Char) :=
  match text with
  | 'u' :: rest => (readCode 4 rest).map fun (c, after) => ([c], after)
  | 'U' :: rest => (readCode 8 rest).map fun (c, after) => ([c], after)
  | c :: rest =>
    if multiline && isSpaceOrLineEnd c then (skipLineEnd text).map fun after => ([], after)
    else (shortEscape? c).map fun d => ([d], rest)
  | [] => none

/-- The text up to a double quote, or up to three of them. Each step takes a character, so the length
is fuel enough. -/
def readBasic (multiline : Bool) : Nat → List Char → Option (List Char × List Char)
  | 0, _ => none
  | fuel + 1, text =>
    match text with
    | [] => none
    | '"' :: rest =>
      if !multiline then some ([], rest)
      else
        match rest with
        | '"' :: '"' :: after => some ([], after)
        | _ => (readBasic multiline fuel rest).map fun (more, after) => ('"' :: more, after)
    | '\\' :: rest => do
      let (meant, after) ← readEscape multiline rest
      let (more, after) ← readBasic multiline fuel after
      return (meant ++ more, after)
    | c :: rest =>
      if isBarredIn multiline c then none
      else (readBasic multiline fuel rest).map fun (more, after) => (c :: more, after)

/-- A block of lines with the quotes that follow its end: up to two of them belong to it. -/
def withExtraQuotes (quote : Char) (block : List Char × List Char) : List Char × List Char :=
  let (text, after) := block
  let extra := (after.take 2).takeWhile (· == quote)
  (text ++ extra, after.drop extra.length)

def skipFirstLineEnd : List Char → List Char
  | '\n' :: rest => rest
  | text => text

def readLine : List Char → Option (List Char × List Char)
  | '"' :: rest => readBasic false (rest.length + 1) rest
  | '\'' :: rest => readLiteral rest
  | _ => none

def readQuoted (text : List Char) : Option (List Char × List Char) :=
  match text with
  | '"' :: '"' :: '"' :: rest =>
    (readBasic true (rest.length + 1) (skipFirstLineEnd rest)).map (withExtraQuotes '"')
  | '\'' :: '\'' :: '\'' :: rest =>
    (readLiteralBlock (skipFirstLineEnd rest)).map (withExtraQuotes '\'')
  | _ => readLine text

end FormulaGraph.Toml
