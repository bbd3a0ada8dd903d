import FormulaGraph.Text.CellWidth

/-!
# Styled text

A text for the terminal has spans with styles. A span counts characters, so it has to follow every
change to the text: `slice` takes a part of a text with what its spans have in it, and `append` joins
two.
-/

namespace FormulaGraph.Terminal

open Text (cellWidth)

/-- Characters of a text, from the offset `start` up to the offset `stop`, with a style in words. A
span without one only marks them. -/
structure Span where
  start : Nat
  stop : Nat
  style : Option String

def total : List Nat → Nat
  | [] => 0
  | width :: rest => width + total rest

structure Styled where
  chars : List Char
  spans : List Span

namespace Styled

/-- Whether a character is never sent to the terminal: it would move the cursor back or ring the
bell. -/
def isDropped (c : Char) : Bool := [7, 8, 11, 12, 13].contains c.toNat

def empty : Styled := ⟨[], []⟩

def ofText (text : String) : Styled := ⟨text.toList.filter fun c => !isDropped c, []⟩

def text (t : Styled) : String := String.ofList t.chars

def append (a b : Styled) : Styled :=
  ⟨a.chars ++ b.chars,
    a.spans ++ b.spans.map fun s => ⟨s.start + a.chars.length, s.stop + a.chars.length, s.style⟩⟩

/-- The part of a text between two offsets. A span keeps what it has there, and goes if that is
nothing. -/
def slice (t : Styled) (low high : Nat) : Styled :=
  ⟨(t.chars.take high).drop low,
    t.spans.filterMap fun s =>
      let start := max s.start low - low
      let stop := min s.stop high - low
      if start < stop then some ⟨start, stop, s.style⟩ else none⟩

/-- The first characters of a text. A span keeps what it has there, which may be nothing. -/
def crop (t : Styled) (length : Nat) : Styled :=
  if length < t.chars.length then
    ⟨t.chars.take length,
      (t.spans.filter (·.start < length)).map fun s => ⟨s.start, min s.stop length, s.style⟩⟩
  else t

def withChars (t : Styled) (chars : List Char) : Styled :=
  ⟨chars, if chars.length < t.chars.length then (t.crop chars.length).spans else t.spans⟩

/-- Parts of a text of certain lengths, the first from the offset `start`, with `gap` characters left
out between one part and the next. -/
def parts (t : Styled) (gap start : Nat) : List Nat → List Styled
  | [] => []
  | length :: rest => t.slice start (start + length) :: t.parts gap (start + length + gap) rest

def divide (t : Styled) (gap : Nat) (lengths : List Nat) : List Styled :=
  if lengths.length ≤ 1 then [t] else t.parts gap 0 lengths

def hasBound (t : Styled) (offset : Nat) : Bool :=
  t.spans.any fun s => s.start == offset || s.stop == offset

/-- Characters in runs that no span starts or stops inside of, when `offset` characters stand before
them. -/
def runsFrom (t : Styled) (offset : Nat) : List Char → List (List Char)
  | [] => []
  | c :: rest =>
    match t.runsFrom (offset + 1) rest with
    | run :: others =>
      if t.hasBound (offset + 1) then [c] :: run :: others else (c :: run) :: others
    | [] => [[c]]

def runs (t : Styled) : List (List Char) := t.runsFrom 0 t.chars

end Styled
end FormulaGraph.Terminal
