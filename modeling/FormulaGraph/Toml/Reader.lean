import FormulaGraph.Toml.Draft
import FormulaGraph.Toml.Quoted
import FormulaGraph.Toml.Scalar

/-!
# Reading configuration files

`Toml.read` reads the table that a configuration file holds, line by line: a heading, a key with its
value, a comment, or nothing. A text that is not written so, or that gives a key two values, is
refused.
-/

namespace FormulaGraph.Toml

def orMalformed {α : Type} : Option α → Except TextFault α
  | some a => .ok a
  | none => .error .malformed

/-! ### Keys -/

def isBare (c : Char) : Bool := c.isAlphanum || c == '-' || c == '_'

def readName (text : List Char) : Except TextFault (String × List Char) :=
  match text with
  | [] => .error .malformed
  | c :: _ =>
    if isBare c then .ok (String.ofList (text.takeWhile isBare), text.dropWhile isBare)
    else (orMalformed (readLine text)).map fun (name, after) => (String.ofList name, after)

def readKey : Nat → List Char → Except TextFault (List String × List Char)
  | 0, _ => .error .malformed
  | fuel + 1, text => do
    let (name, after) ← readName text
    match after.dropWhile isSpace with
    | '.' :: more =>
      let (names, after) ← readKey fuel (more.dropWhile isSpace)
      return (name :: names, after)
    | rest => return ([name], rest)

def expect (c : Char) : List Char → Except TextFault (List Char)
  | d :: rest => if d = c then .ok rest else .error .malformed
  | [] => .error .malformed

/-! ### Values -/

/-- What follows spaces, line feeds and comments. -/
def skipFiller : Bool → List Char → Except TextFault (List Char)
  | _, [] => .ok []
  | true, c :: rest =>
    if c == '\n' then skipFiller false rest
    else if isBarred c then .error .malformed
    else skipFiller true rest
  | false, c :: rest =>
    if isSpaceOrLineEnd c then skipFiller false rest
    else if c == '#' then skipFiller true rest
    else .ok (c :: rest)

def readTruth? : List Char → Option (Bool × List Char)
  | 't' :: 'r' :: 'u' :: 'e' :: rest => some (true, rest)
  | 'f' :: 'a' :: 'l' :: 's' :: 'e' :: rest => some (false, rest)
  | _ => none

def readScalar (text : List Char) : Except TextFault (Toml × List Char) :=
  match text with
  | '"' :: _ => (orMalformed (readQuoted text)).map fun (s, after) => (.str (String.ofList s), after)
  | '\'' :: _ => (orMalformed (readQuoted text)).map fun (s, after) => (.str (String.ofList s), after)
  | _ =>
    match readTruth? text with
    | some (b, after) => .ok (.scalar (.bool b), after)
    | none =>
      match readMoment? text with
      | some result => result
      | none =>
        match readNumber? text with
        | some result => result.map fun (n, after) => (.scalar (.number n), after)
        | none => .error .malformed

/-- The members of a table in braces with one more, and the paths in it that are sealed. -/
def addInline (members : NameMap Toml) (closed : List (List String)) (key : List String) (value : Toml) :
    Option (NameMap Toml × List (List String)) := do
  let (before, name) ← splitLast? key
  if leadsInto closed key then none
  else
    let members ← changeAt before (addMember name value) members
    return (members, if value.hasParts then key :: closed else closed)

mutual

def readValue : Nat → List Char → Except TextFault (Toml × List Char)
  | 0, _ => .error .malformed
  | fuel + 1, text =>
    match text with
    | '[' :: rest => do
      let (items, after) ← readItems fuel (← skipFiller false rest)
      return (.arr items, after)
    | '\x7b' :: rest =>
      match rest.dropWhile isSpace with
      | '\x7d' :: after => .ok (.table [], after)
      | inner => do
        let (members, after) ← readMembers fuel [] [] inner
        return (.table members, after)
    | _ => readScalar text

def readItems : Nat → List Char → Except TextFault (List Toml × List Char)
  | 0, _ => .error .malformed
  | fuel + 1, text =>
    match text with
    | ']' :: after => .ok ([], after)
    | _ => do
      let (item, after) ← readValue fuel text
      match ← skipFiller false after with
      | ']' :: after => return ([item], after)
      | ',' :: rest =>
        let (items, after) ← readItems fuel (← skipFiller false rest)
        return (item :: items, after)
      | _ => .error .malformed

def readMembers : Nat → NameMap Toml → List (List String) → List Char →
    Except TextFault (NameMap Toml × List Char)
  | 0, _, _, _ => .error .malformed
  | fuel + 1, members, closed, text => do
    let (key, after) ← readKey fuel text
    let (value, after) ← readValue fuel ((← expect '=' after).dropWhile isSpace)
    let (members, closed) ← orMalformed (addInline members closed key value)
    match after.dropWhile isSpace with
    | '\x7d' :: after => return (members, after)
    | ',' :: rest => readMembers fuel members closed (rest.dropWhile isSpace)
    | _ => .error .malformed

end

/-! ### Lines -/

def skipComment (text : List Char) : Except TextFault (List Char) :=
  match text with
  | '#' :: rest =>
    if (rest.takeWhile (· ≠ '\n')).any isBarred then .error .malformed
    else .ok (rest.dropWhile (· ≠ '\n'))
  | _ => .ok text

/-- The draft after the statement that comes next; a comment says nothing. Twice the length of the
text is fuel enough, as each call of a reader has taken a character or is the first on an array or
a table. -/
def readStatement (d : Draft) (text : List Char) : Except TextFault (Draft × List Char) :=
  let fuel := 2 * text.length + 2
  match text with
  | '#' :: _ => .ok (d, text)
  | '[' :: '[' :: rest => do
    let (path, after) ← readKey fuel (rest.dropWhile isSpace)
    let d ← orMalformed (d.openItem path)
    return (d, ← expect ']' (← expect ']' after))
  | '[' :: rest => do
    let (path, after) ← readKey fuel (rest.dropWhile isSpace)
    let d ← orMalformed (d.openTable path)
    return (d, ← expect ']' after)
  | _ => do
    let (key, after) ← readKey fuel text
    let (value, after) ← readValue fuel ((← expect '=' after).dropWhile isSpace)
    let d ← orMalformed (d.assign key value)
    return (d, after)

/-- The draft after all lines. Each line takes a character, so the length is fuel enough. -/
def readLines : Nat → Draft → List Char → Except TextFault Draft
  | 0, _, _ => .error .malformed
  | fuel + 1, d, text =>
    match text.dropWhile isSpace with
    | [] => .ok d
    | '\n' :: rest => readLines fuel d rest
    | line => do
      let (d, after) ← readStatement d line
      match ← skipComment (after.dropWhile isSpace) with
      | [] => return d
      | '\n' :: rest => readLines fuel d rest
      | _ => .error .malformed

def unifyLineEnds : List Char → List Char
  | [] => []
  | '\r' :: '\n' :: rest => '\n' :: unifyLineEnds rest
  | c :: rest => c :: unifyLineEnds rest

def read (content : String) : Except TextFault (NameMap Toml) :=
  let text := unifyLineEnds content.toList
  (readLines (text.length + 1) .empty text).map Draft.members

end FormulaGraph.Toml
