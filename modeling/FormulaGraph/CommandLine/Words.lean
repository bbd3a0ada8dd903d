/-!
# Words of a command line

The words of a command line are options and operands in any order. An option has a long name behind
two dashes, and perhaps a letter behind one; its value is attached or the next word, whatever that
is. Letters of options may stand together. Two dashes alone end the options.
-/

namespace FormulaGraph.CommandLine

structure OptionSpec where
  /-- The long name, without dashes. -/
  name : String
  letter : Option Char
  takesValue : Bool

/-- An option that was given, by its long name, with its value if it takes one. -/
structure GivenOption where
  name : String
  value : Option String

structure Words where
  options : List GivenOption
  operands : List String

namespace Words

def addOption (name : String) (value : Option String) (words : Words) : Words :=
  { words with options := ⟨name, value⟩ :: words.options }

def addOperand (operand : String) (words : Words) : Words :=
  { words with operands := operand :: words.operands }

def has (words : Words) (name : String) : Bool := words.options.any (·.name = name)

def values (words : Words) (name : String) : List String :=
  words.options.filterMap fun given => if given.name = name then given.value else none

/-- The value of an option; the last one counts. -/
def value? (words : Words) (name : String) : Option String := (words.values name).getLast?

end Words

structure OptionWord where
  /-- The options without values. -/
  flags : List String
  /-- The option at the end that takes a value, with the value if it is attached. -/
  last : Option (String × Option String)

/-- What the letters of options say, of which the one that takes a value ends the options. -/
def readLetters (specs : List OptionSpec) : List Char → Option OptionWord
  | [] => some ⟨[], none⟩
  | c :: rest =>
    match specs.find? (·.letter = some c) with
    | none => none
    | some spec =>
      if spec.takesValue then
        some ⟨[], some (spec.name, if rest.isEmpty then none else some (String.ofList rest))⟩
      else (readLetters specs rest).map fun word => { word with flags := spec.name :: word.flags }

def readLong (spec : OptionSpec) (attached : Option String) : Option OptionWord :=
  match spec.takesValue, attached with
  | true, value => some ⟨[], some (spec.name, value)⟩
  | false, none => some ⟨[spec.name], none⟩
  | false, some _ => none

def readOptionWord (specs : List OptionSpec) : List Char → Option OptionWord
  | '-' :: long =>
    let name := String.ofList (long.takeWhile (· ≠ '='))
    let attached := match long.dropWhile (· ≠ '=') with
      | _ :: value => some (String.ofList value)
      | [] => none
    match specs.find? (·.name = name) with
    | some spec => readLong spec attached
    | none => none
  | letters => readLetters specs letters

/-- The options and operands among words; none if an option is unknown, lacks its value or has one
that it does not take. -/
def readWords (specs : List OptionSpec) : List String → Option Words
  | [] => some ⟨[], []⟩
  | word :: rest =>
    match word.toList with
    | ['-', '-'] => some ⟨[], rest⟩
    | '-' :: c :: more =>
      match readOptionWord specs (c :: more) with
      | none => none
      | some ⟨flags, last⟩ =>
        let withFlags (words : Words) : Words :=
          flags.foldr (fun name words => words.addOption name none) words
        match last with
        | none => (readWords specs rest).map withFlags
        | some (name, some value) =>
          (readWords specs rest).map fun words => withFlags (words.addOption name (some value))
        | some (name, none) =>
          match rest with
          | [] => none
          | value :: others =>
            (readWords specs others).map fun words => withFlags (words.addOption name (some value))
    | _ => (readWords specs rest).map (·.addOperand word)

end FormulaGraph.CommandLine
