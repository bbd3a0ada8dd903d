import FormulaGraph.Fault
import FormulaGraph.Literal.Value
import FormulaGraph.Terminal.Style
import FormulaGraph.Terminal.Wrap
import FormulaGraph.Text.Emoji
import FormulaGraph.Text.Letter

/-!
# Markup

Text for the terminal is written with tags in square brackets that style it: `read` gives the text
with its styles as spans. A backslash before a tag makes it text, and two make a backslash; `escape`
writes a text in this way. A name of an emoji between colons stands for the emoji. A tag that starts
with an at sign has no style, but the name of a handler and a literal with its arguments.
-/

namespace FormulaGraph.Markup

open Terminal (Style Styled)

def startsTag (c : Char) : Bool := ('a' ≤ c && c ≤ 'z') || c == '#' || c == '/' || c == '@'

/-- The body of the tag whose opening bracket has been read, and what follows the tag. -/
def tagBody? (text : List Char) : Option (List Char × List Char) :=
  match text with
  | first :: _ =>
    if startsTag first then
      match text.span fun c => c != ']' && c != '[' with
      | (body, ']' :: rest) => some (body, rest)
      | _ => none
    else none
  | [] => none

inductive Token where
  /-- Text as it stands. -/
  | text (content : List Char)
  /-- Backslashes, and the body of the tag behind them, which starts at an offset. -/
  | tag (offset slashes : Nat) (body : List Char)

def flush (reversed : List Char) : List Token :=
  if reversed.isEmpty then [] else [.text reversed.reverse]

/-- The tokens of a text. The last `slashes` characters of `done`, which is in reverse, are the
backslashes directly before the text, and `offset` is the number of characters before it. -/
def tokens : Nat → Nat → Nat → List Char → List Char → List Token
  | 0, _, _, done, text => flush (text.reverse ++ done)
  | fuel + 1, offset, slashes, done, text =>
    match text with
    | [] => flush done
    | '[' :: rest =>
      match tagBody? rest with
      | some (body, after) =>
        flush (done.drop slashes) ++
          .tag (offset - slashes) slashes body :: tokens fuel (offset + body.length + 2) 0 [] after
      | none => tokens fuel (offset + 1) 0 ('[' :: done) rest
    | '\\' :: rest => tokens fuel (offset + 1) (slashes + 1) ('\\' :: done) rest
    | c :: rest => tokens fuel (offset + 1) 0 (c :: done) rest

def tokenize (text : List Char) : List Token := tokens (text.length + 1) 0 0 [] text

def escapeToken : Token → List Char
  | .text content => content
  | .tag _ slashes body => List.replicate (2 * slashes + 1) '\\' ++ '[' :: body ++ [']']

/-- A text as markup that shows it. A single backslash at the end is written twice, as a tag may
follow it. -/
def escape (text : String) : String :=
  let escaped := (tokenize text.toList).flatMap escapeToken
  let closed := match escaped.reverse with
    | ['\\'] => escaped ++ ['\\']
    | '\\' :: c :: _ => if c = '\\' then escaped else escaped ++ ['\\']
    | _ => escaped
  String.ofList closed

def unescapeBrackets : List Char → List Char
  | '\\' :: '[' :: rest => '[' :: unescapeBrackets rest
  | c :: rest => c :: unescapeBrackets rest
  | [] => []

/-- What stands for text between two colons: an emoji if the text is its name, which `-emoji` or
`-text` may follow to choose how it is drawn. -/
def colonText (body : List Char) : List Char :=
  let (name, variant) :=
    if "-emoji".toList.isSuffixOf body then (body.take (body.length - 6), ['\ufe0f'])
    else if "-text".toList.isSuffixOf body then (body.take (body.length - 5), ['\ufe0e'])
    else (body, [])
  match Text.emoji? (Text.lower (String.ofList name)) with
  | some emoji => emoji.toList ++ variant
  | none => ':' :: body ++ [':']

/-- A text with emoji for their names between colons. `opened` is the text after a colon for which
none has followed yet, in reverse. -/
def replaceNames (opened : Option (List Char)) : List Char → List Char
  | [] =>
    match opened with
    | none => []
    | some body => ':' :: body.reverse
  | c :: rest =>
    match opened with
    | none => if c = ':' then replaceNames (some []) rest else c :: replaceNames none rest
    | some body =>
      if c = ':' then colonText body.reverse ++ replaceNames none rest
      else if Text.isBlank c then ':' :: body.reverse ++ c :: replaceNames none rest
      else replaceNames (some (c :: body)) rest

/-- An open tag: the offset in the shown text where it was opened, the canonical name of its style,
and its value. -/
structure Opened where
  start : Nat
  name : String
  value : Option String

def Opened.style (tag : Opened) : String :=
  match tag.value with
  | none => tag.name
  | some value => tag.name ++ " " ++ value

/-- The arguments in the value of a tag for a handler: what stands in parentheses behind a name,
nothing if there is a name only, and else the value itself. -/
def arguments (value : List Char) : List Char :=
  match value.dropWhile fun c => Text.isWordPart c || c == '.' with
  | [] => ['(', ')']
  | '(' :: rest =>
    if rest.getLast? = some ')' ∧ '\n' ∉ rest then '(' :: rest else value
  | _ => value

def Opened.checkHandler (tag : Opened) : Except Fault Unit :=
  match tag.value with
  | none | some "" => .ok ()
  | some value =>
    let literal := String.ofList (arguments (Text.trimList Text.isBlank value.toList))
    (Literal.check literal).mapError fun cause => .handler cause literal value

/-- A text that is being read: what is shown of it so far, with the spans of the tags that are
closed, and the tags that are open, the innermost first. -/
structure Draft where
  shown : Styled
  opened : List Opened

namespace Draft

def empty : Draft := ⟨.empty, []⟩

def add (d : Draft) (text : List Char) : Draft :=
  { d with shown := d.shown.append (.ofText (String.ofList text)) }

def mark (d : Draft) (tag : Opened) (style : Option String) : Draft :=
  { d with shown := { d.shown with
      spans := d.shown.spans ++ [⟨tag.start, d.shown.chars.length, style⟩] } }

/-- A draft in which a tag is closed that was open. A tag for a handler leaves a mark without a
style, if its arguments are a literal. -/
def close (d : Draft) (tag : Opened) : Except Fault Draft :=
  if tag.name.startsWith "@" then do
    tag.checkHandler
    return d.mark tag none
  else .ok (d.mark tag (some tag.style))

/-- A draft after a closing tag with a name, which takes off the innermost tag of the same style, or
without a name any. -/
def closeNamed (d : Draft) (offset : Nat) (name body : List Char) : Except Fault Draft :=
  if (Text.trimList Text.isBlank name).isEmpty then
    match d.opened with
    | [] => .error (.markup .nothingOpen offset)
    | tag :: rest => close { d with opened := rest } tag
  else
    match Style.canonicalName (String.ofList name) with
    | .error cause => .error (.misuse cause)
    | .ok wanted =>
      match d.opened.find? (·.name == wanted) with
      | some tag => close { d with opened := d.opened.eraseP (·.name == wanted) } tag
      | none => .error (.markup (.unmatched (String.ofList ('[' :: body ++ [']']))) offset)

def applyTag (d : Draft) (offset : Nat) (body : List Char) : Except Fault Draft :=
  match body.takeWhile (· ≠ '=') with
  | '/' :: name => d.closeNamed offset name body
  | name =>
    match Style.canonicalName (String.ofList name) with
    | .error cause => .error (.misuse cause)
    | .ok canonical =>
      let value := match body.dropWhile (· ≠ '=') with
        | [] => none
        | _ :: value => some (String.ofList value)
      .ok { d with opened := ⟨d.shown.chars.length, canonical, value⟩ :: d.opened }

def addToken (d : Draft) : Token → Except Fault Draft
  | .text content => .ok (d.add (replaceNames none (unescapeBrackets content)))
  | .tag offset slashes body =>
    let d := d.add (List.replicate (slashes / 2) '\\')
    if slashes % 2 = 1 then .ok (d.add (replaceNames none ('[' :: body ++ [']'])))
    else d.applyTag (offset + slashes) body

/-- The text of a draft. Tags that are open reach to its end, and spans are in the order of their
starts, those that were closed last first. -/
def finish (d : Draft) : Styled :=
  let marked := (d.opened.foldl (fun d tag => d.mark tag (some tag.style)) d).shown
  { marked with spans := marked.spans.reverse.mergeSort fun a b => a.start ≤ b.start }

end Draft

def read (markup : String) : Except Fault Styled :=
  ((tokenize markup.toList).foldlM Draft.addToken Draft.empty).map Draft.finish

def printedLines (width : Nat) (markup : String) : Except Fault (List String) := do
  let lines := (← read markup).screenLines width
  match lines.forM Styled.checkStyles with
  | .ok _ => return lines.map (Styled.shown width)
  | .error cause => .error (.misuse cause)

end FormulaGraph.Markup
