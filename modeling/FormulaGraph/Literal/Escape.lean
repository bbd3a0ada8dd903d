import FormulaGraph.Literal.Fault
import FormulaGraph.Text.Digit

/-!
# Escapes in quotes

A backslash between quotes starts an escape. `checkEscapes` and `checkByteEscapes` look for one that
lacks digits, stands for no character or names none; an unknown escape stands for itself. Offsets
count a character beyond ASCII as its long escape, of ten characters.
-/

namespace FormulaGraph.Literal.Escape

/-- The long escape of a character, in which only the length counts. -/
def longEscape : List Char := '\\' :: 'U' :: List.replicate 8 '0'

/-- A text with long escapes for the characters beyond ASCII. A backslash before one is escaped as
well. -/
def expand : List Char → List Char
  | [] => []
  | '\\' :: rest =>
    match rest with
    | [] => '\\' :: "u005c".toList
    | c :: rest =>
      if c.toNat < 128 then '\\' :: c :: expand rest
      else '\\' :: "u005c".toList ++ longEscape ++ expand rest
  | c :: rest => if c.toNat < 128 then c :: expand rest else longEscape ++ expand rest

def hexNumber (digits : List Char) : Nat :=
  digits.foldl (fun n c => 16 * n + (Text.hexValue? c).getD 0) 0

/-- What follows the escape at the front of a text, which a mark and a number of digits make up, or
why there is none, with the length of what is wrong. -/
def skipDigits (count : Nat) (reason : String) (text : List Char) :
    Except (Nat × String) (List Char) :=
  let digits := (text.take count).takeWhile fun c => (Text.hexValue? c).isSome
  if digits.length < count then .error (2 + digits.length, reason)
  else if 0x10ffff < hexNumber digits then .error (2 + count, "illegal Unicode character")
  else .ok (text.drop count)

def inName (c : Char) : Bool := c.isAlphanum || c == ' ' || c == '-'

/-- What follows an escape with the name of a character in braces, or why there is none, with the
length of what is wrong. Every name that could be one is taken for the name of some character. -/
def skipName (text : List Char) : Except (Nat × String) (List Char) :=
  let malformed := "malformed \\N character escape"
  match text with
  | '\x7b' :: rest =>
    match rest.span (· ≠ '\x7d') with
    | ([], _ :: _) => .error (3, malformed)
    | (name, _ :: rest) =>
      if name.all inName then .ok rest
      else .error (4 + name.length, "unknown Unicode character name")
    | (name, []) => .error (3 + name.length, malformed)
  | _ => .error (2, malformed)

def skip (mark : Char) (rest : List Char) : Except (Nat × String) (List Char) :=
  if mark = 'x' then skipDigits 2 "truncated \\xXX escape" rest
  else if mark = 'u' then skipDigits 4 "truncated \\uXXXX escape" rest
  else if mark = 'U' then skipDigits 8 "truncated \\UXXXXXXXX escape" rest
  else if mark = 'N' then skipName rest
  else .ok rest

def check : Nat → Nat → List Char → Except QuoteFault Unit
  | 0, _, _ => .ok ()
  | fuel + 1, offset, text =>
    match text with
    | [] | ['\\'] => .ok ()
    | '\\' :: mark :: rest =>
      match skip mark rest with
      | .error (length, reason) => .error (.escape offset (offset + length - 1) reason)
      | .ok after => check fuel (offset + text.length - after.length) after
    | _ :: rest => check fuel (offset + 1) rest

def checkEscapes (text : List Char) : Except QuoteFault Unit :=
  let expanded := expand text
  check expanded.length 0 expanded

def checkByteEscapes : Nat → List Char → Except QuoteFault Unit
  | offset, '\\' :: 'x' :: c :: d :: rest =>
    if (Text.hexValue? c).isSome && (Text.hexValue? d).isSome then
      checkByteEscapes (offset + 4) rest
    else .error (.byteEscape offset)
  | offset, '\\' :: 'x' :: _ => .error (.byteEscape offset)
  | offset, '\\' :: _ :: rest => checkByteEscapes (offset + 2) rest
  | offset, _ :: rest => checkByteEscapes (offset + 1) rest
  | _, [] => .ok ()

end FormulaGraph.Literal.Escape
