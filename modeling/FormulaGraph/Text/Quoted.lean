import FormulaGraph.Text.Printable
import FormulaGraph.Text.Surrogate

/-!
# Quoted texts

A quoted text stands between single quotes, or between double quotes when it holds a single quote
and no double one. Inside, the quote in use and the backslash are escaped, as is every character
that is not printable.
-/

namespace FormulaGraph.Text

def hexDigit (n : Nat) : Char :=
  if n < 10 then Char.ofNat ('0'.toNat + n) else Char.ofNat ('a'.toNat + (n - 10))

def hexDigits : Nat → Nat → List Char
  | 0, _ => []
  | width + 1, n => hexDigits width (n / 16) ++ [hexDigit (n % 16)]

def escapeCode (n : Nat) : List Char :=
  if n < 0x100 then '\\' :: 'x' :: hexDigits 2 n
  else if n < 0x10000 then '\\' :: 'u' :: hexDigits 4 n
  else '\\' :: 'U' :: hexDigits 8 n

/-- A character as it stands between the quotes `quote`. -/
def quotedChar (quote c : Char) : List Char :=
  if c = quote ∨ c = '\\' then ['\\', c]
  else if c = '\n' then ['\\', 'n']
  else if c = '\r' then ['\\', 'r']
  else if c = '\t' then ['\\', 't']
  else if isPrintable c then [c]
  else escapeCode (codeOf c)

def quoteFor (text : List Char) : Char :=
  if '\'' ∈ text ∧ '"' ∉ text then '"' else '\''

def quotedList (text : List Char) : List Char :=
  let quote := quoteFor text
  quote :: text.flatMap (quotedChar quote) ++ [quote]

def quoted (text : String) : String := String.ofList (quotedList text.toList)

/-- What is said of halves of code pairs, from an offset on, in a text that should have none. -/
def halvesMessage (offset : Nat) (codes : List Nat) : String :=
  let digits (n : Nat) := String.ofList (Nat.toDigits 10 n)
  let place := match codes with
    | [code] => " '" ++ String.ofList (escapeCode code) ++ "' in position " ++ digits offset
    | _ => "s in position " ++ digits offset ++ "-" ++ digits (offset + codes.length - 1)
  "'utf-8' codec can't encode character" ++ place ++ ": surrogates not allowed"

theorem quotedList_of_plain {text : List Char}
    (plain : ∀ c ∈ text, isPrintable c = true ∧ c ≠ '\'' ∧ c ≠ '\\' ∧ c ≠ '\n' ∧ c ≠ '\r' ∧ c ≠ '\t') :
    quotedList text = '\'' :: text ++ ['\''] := by
  have single : quoteFor text = '\'' := by
    unfold quoteFor
    rw [if_neg]
    rintro ⟨member, -⟩
    exact (plain _ member).2.1 rfl
  have same : text.flatMap (quotedChar '\'') = text := by
    induction text with
    | nil => rfl
    | cons c rest ih =>
      obtain ⟨shown, quote, slash, line, back, tab⟩ := plain c (List.mem_cons_self ..)
      have tail := fun d member => plain d (List.mem_cons_of_mem _ member)
      have singleRest : quoteFor rest = '\'' := by
        unfold quoteFor
        rw [if_neg]
        rintro ⟨member, -⟩
        exact (tail _ member).2.1 rfl
      rw [List.flatMap_cons, ih tail singleRest]
      simp [quotedChar, quote, slash, line, back, tab, shown]
  simp [quotedList, single, same]

end FormulaGraph.Text
