import FormulaGraph.Json.Basic
import FormulaGraph.Number.Reader

/-!
# Reading structured data

`Json.read` reads a text that holds one datum. A text that holds none is refused with the first
place at which it cannot go on, by line, column and offset. Of members with one name the last
value counts, in the place of the first.
-/

namespace FormulaGraph.Json

open Text

inductive Defect where
  | noValue
  | noName
  | noColon
  | noComma
  | openText
  | controlCharacter
  | badEscape
  | badCodeEscape
  | extraData
  | byteOrderMark
deriving DecidableEq

def Defect.message : Defect → String
  | .noValue => "Expecting value"
  | .noName => "Expecting property name enclosed in double quotes"
  | .noColon => "Expecting ':' delimiter"
  | .noComma => "Expecting ',' delimiter"
  | .openText => "Unterminated string starting at"
  | .controlCharacter => "Invalid control character at"
  | .badEscape => "Invalid \\escape"
  | .badCodeEscape => "Invalid \\uXXXX escape"
  | .extraData => "Extra data"
  | .byteOrderMark => "Unexpected UTF-8 BOM (decode using utf-8-sig)"

inductive ReadFault where
  /-- Something is wrong at an offset, counted in characters. -/
  | defect (what : Defect) (offset : Nat)
  /-- An integer has more digits than are read. -/
  | longInteger (digits : Nat)
deriving DecidableEq

/-- The rest of a text, with the offset at which it starts. -/
structure Cursor where
  offset : Nat
  rest : List Char

namespace Cursor

def skip (n : Nat) (cursor : Cursor) : Cursor := ⟨cursor.offset + n, cursor.rest.drop n⟩

def skipBlanks (cursor : Cursor) : Cursor :=
  cursor.skip (cursor.rest.takeWhile fun c => c == ' ' || c == '\t' || c == '\n' || c == '\r').length

end Cursor

def hexCode? : List Char → Option Nat
  | [a, b, c, d] => do
    return (← hexValue? a) * 4096 + (← hexValue? b) * 256 + (← hexValue? c) * 16 + (← hexValue? d)
  | _ => none

def shortEscape? : Char → Option Char
  | '"' => some '"'
  | '\\' => some '\\'
  | '/' => some '/'
  | 'b' => some '\x08'
  | 'f' => some '\x0c'
  | 'n' => some '\n'
  | 'r' => some '\r'
  | 't' => some '\t'
  | _ => none

/-- The character that an escape by code means, and how many characters follow the `u` in it. The
text must go on behind the digits, and a pair is read as one character. -/
def codeEscape (afterU : Cursor) : Except ReadFault (Char × Nat) :=
  let fail (ahead : Nat) : Except ReadFault (Char × Nat) :=
    .error (.defect .badCodeEscape (afterU.offset + ahead - 1))
  if afterU.rest.length ≤ 4 then fail 0
  else
    match hexCode? (afterU.rest.take 4) with
    | none => fail 0
    | some code =>
      let next := afterU.rest.drop 4
      if isHighHalf code && 6 < next.length && next.take 2 == ['\\', 'u'] then
        match hexCode? ((next.drop 2).take 4) with
        | none => fail 6
        | some second =>
          if isLowHalf second then .ok (ofPair code second, 10)
          else .ok (ofCode code, 4)
      else .ok (ofCode code, 4)

/-- The rest of a quoted text that was opened at the offset `opened`. -/
def readQuoted (opened : Nat) : Nat → Cursor → List Char → Except ReadFault (String × Cursor)
  | 0, _, _ => .error (.defect .openText opened)
  | fuel + 1, cursor, done =>
    match cursor.rest with
    | [] => .error (.defect .openText opened)
    | '"' :: _ => .ok (String.ofList done.reverse, cursor.skip 1)
    | '\\' :: [] => .error (.defect .openText opened)
    | '\\' :: 'u' :: _ => do
      let (c, length) ← codeEscape (cursor.skip 2)
      readQuoted opened fuel (cursor.skip (2 + length)) (c :: done)
    | '\\' :: c :: _ =>
      match shortEscape? c with
      | some d => readQuoted opened fuel (cursor.skip 2) (d :: done)
      | none => .error (.defect .badEscape cursor.offset)
    | c :: _ =>
      if c.toNat < 32 then .error (.defect .controlCharacter cursor.offset)
      else readQuoted opened fuel (cursor.skip 1) (c :: done)

def readText (cursor : Cursor) : Except ReadFault (String × Cursor) :=
  readQuoted cursor.offset (cursor.rest.length + 1) (cursor.skip 1) []

/-- The digits, the fraction and the exponent of the number that comes next, without its sign: a
point or an exponent mark that no digit follows is left. -/
def splitNumber (cs : List Char) : List Char × List Char × List Char :=
  let digits := match cs with
    | '0' :: _ => ['0']
    | other => other.takeWhile Char.isDigit
  let rest := cs.drop digits.length
  let fraction := match rest with
    | '.' :: more =>
      let places := more.takeWhile Char.isDigit
      if places.isEmpty then [] else '.' :: places
    | _ => []
  let rest := rest.drop fraction.length
  let exponent := match rest with
    | mark :: more =>
      if mark == 'e' || mark == 'E' then
        let sign := match more with
          | c :: _ => if c == '-' || c == '+' then [c] else []
          | [] => []
        let places := (more.drop sign.length).takeWhile Char.isDigit
        if places.isEmpty then [] else mark :: (sign ++ places)
      else []
    | [] => []
  (digits, fraction, exponent)

/-- The number that comes next; an integer with more digits than the limit, if there is one, is
refused. -/
def readNumber (limit : Option Nat) (cursor : Cursor) : Except ReadFault (Number × Cursor) :=
  let (negative, unsigned) := match cursor.rest with
    | '-' :: rest => (true, rest)
    | rest => (false, rest)
  let (digits, fraction, exponent) := splitNumber unsigned
  let after := cursor.skip ((if negative then 1 else 0) + digits.length + fraction.length + exponent.length)
  if digits.isEmpty then .error (.defect .noValue cursor.offset)
  else if fraction.isEmpty && exponent.isEmpty then
    if limit.any (· < digits.length) then .error (.longInteger digits.length)
    else
      let n := ofDigits (Number.asciiValues digits)
      .ok (.int (if negative then -(n : Int) else n), after)
  else
    match Number.readDecimal? negative (digits ++ fraction ++ exponent) with
    | some x => .ok (.float x, after)
    | none => .error (.defect .noValue cursor.offset)

def words : List (String × Json) :=
  [("null", .null), ("true", .bool true), ("false", .bool false),
   ("NaN", .scalar (.number (.float Binary64.nan))),
   ("Infinity", .scalar (.number (.float (Binary64.infinity false)))),
   ("-Infinity", .scalar (.number (.float (Binary64.infinity true))))]

def readScalar (limit : Option Nat) (cursor : Cursor) : Except ReadFault (Json × Cursor) :=
  match cursor.rest with
  | '"' :: _ => do
    let (s, after) ← readText cursor
    return (.str s, after)
  | _ =>
    match words.find? fun (word, _) => word.toList.isPrefixOf cursor.rest with
    | some (word, datum) => .ok (datum, cursor.skip word.length)
    | none => do
      let (n, after) ← readNumber limit cursor
      return (.scalar (.number n), after)

mutual

def readValue (limit : Option Nat) : Nat → Cursor → Except ReadFault (Json × Cursor)
  | 0, cursor => .error (.defect .noValue cursor.offset)
  | fuel + 1, cursor =>
    match cursor.rest with
    | '[' :: _ =>
      let start := (cursor.skip 1).skipBlanks
      match start.rest with
      | ']' :: _ => .ok (.arr [], start.skip 1)
      | _ => do
        let (items, after) ← readItems limit fuel start
        return (.arr items, after)
    | '\x7b' :: _ =>
      let start := (cursor.skip 1).skipBlanks
      match start.rest with
      | '\x7d' :: _ => .ok (.obj [], start.skip 1)
      | _ => do
        let (members, after) ← readMembers limit fuel start
        return (.obj (NameMap.ofList members), after)
    | _ => readScalar limit cursor

def readItems (limit : Option Nat) : Nat → Cursor → Except ReadFault (List Json × Cursor)
  | 0, cursor => .error (.defect .noValue cursor.offset)
  | fuel + 1, cursor => do
    let (item, after) ← readValue limit fuel cursor
    let next := after.skipBlanks
    match next.rest with
    | ']' :: _ => return ([item], next.skip 1)
    | ',' :: _ =>
      let (items, after) ← readItems limit fuel (next.skip 1).skipBlanks
      return (item :: items, after)
    | _ => .error (.defect .noComma next.offset)

def readMembers (limit : Option Nat) : Nat → Cursor → Except ReadFault (List (String × Json) × Cursor)
  | 0, cursor => .error (.defect .noName cursor.offset)
  | fuel + 1, cursor =>
    match cursor.rest with
    | '"' :: _ => do
      let (name, after) ← readText cursor
      let colon := after.skipBlanks
      match colon.rest with
      | ':' :: _ =>
        let (value, after) ← readValue limit fuel (colon.skip 1).skipBlanks
        let next := after.skipBlanks
        match next.rest with
        | '\x7d' :: _ => return ([(name, value)], next.skip 1)
        | ',' :: _ =>
          let (members, after) ← readMembers limit fuel (next.skip 1).skipBlanks
          return ((name, value) :: members, after)
        | _ => .error (.defect .noComma next.offset)
      | _ => .error (.defect .noColon colon.offset)
    | _ => .error (.defect .noName cursor.offset)

end

/-- The one datum that a list of characters holds. Each call of a reader has taken a character or
is the first on an array or an object, so twice the length is fuel enough. -/
def readChars (limit : Option Nat) (cs : List Char) : Except ReadFault Json :=
  if cs.head? = some '\ufeff' then .error (.defect .byteOrderMark 0)
  else do
    let (datum, after) ← readValue limit (2 * cs.length + 2) (Cursor.skipBlanks ⟨0, cs⟩)
    let last := after.skipBlanks
    match last.rest with
    | [] => return datum
    | _ => .error (.defect .extraData last.offset)

structure Place where
  line : Nat
  column : Nat
  offset : Nat
deriving DecidableEq

/-- The place at an offset: lines and columns count from one, and a line ends with its line feed. -/
def Place.of (cs : List Char) (offset : Nat) : Place :=
  let before := cs.take offset
  ⟨before.count '\n' + 1, (before.reverse.takeWhile (· ≠ '\n')).length + 1, offset⟩

inductive TextFault where
  | defect (what : Defect) (place : Place)
  | longInteger (digits : Nat)
deriving DecidableEq

def readWithin (limit : Option Nat) (text : String) : Except TextFault Json :=
  match readChars limit text.toList with
  | .ok datum => .ok datum
  | .error (.defect what offset) => .error (.defect what (Place.of text.toList offset))
  | .error (.longInteger digits) => .error (.longInteger digits)

def read (text : String) : Except TextFault Json := readWithin (some Number.maxDigits) text

def unifyLineEnds : List Char → List Char
  | [] => []
  | '\r' :: '\n' :: rest => '\n' :: unifyLineEnds rest
  | '\r' :: rest => '\n' :: unifyLineEnds rest
  | c :: rest => c :: unifyLineEnds rest

/-- The one datum that a file holds; whatever ends a line in it counts as a line feed. -/
def ofFile (content : String) : Except TextFault Json :=
  read (String.ofList (unifyLineEnds content.toList))

end FormulaGraph.Json
