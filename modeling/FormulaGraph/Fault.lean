import FormulaGraph.Catalog.Defect
import FormulaGraph.Graph.Value
import FormulaGraph.Json.Printer
import FormulaGraph.Json.Reader
import FormulaGraph.Literal.Fault

/-!
# Faults

Everything that can go wrong is a value. A `Misuse` is a value of the wrong kind, shape or content,
met where another one is needed; a `FormulaFault` says why a graph cannot be built or a formula not
be compiled; `Fault` adds what is wrong with files. Each has its message.
-/

namespace FormulaGraph

inductive MisuseClass where
  | kind
  | content
  | member
  | name
  | range
  | state
  | memory
  | encoding
deriving DecidableEq

def MisuseClass.label : MisuseClass → String
  | .kind => "TypeError"
  | .content => "ValueError"
  | .member => "AttributeError"
  | .name => "KeyError"
  | .range => "OverflowError"
  | .state => "RuntimeError"
  | .memory => "MemoryError"
  | .encoding => "UnicodeEncodeError"

/-- A value of the wrong kind, shape or content. -/
inductive Misuse where
  /-- A value without parts, where a member is asked for. -/
  | noParts (kind : String)
  /-- An array, where a member is asked for by name. -/
  | arrayByName
  /-- A text, where a member is asked for by name. -/
  | textByName
  /-- A value that is no sequence. -/
  | notSequence (kind : String)
  /-- A value in which nothing can be looked for. -/
  | notContainer (kind : String)
  /-- A value with parts, where a name is asked for. -/
  | compoundName (kind : String)
  /-- A value that does not write an integer. -/
  | notIntegral (kind : String)
  /-- A value that is no text, where one is shown. -/
  | notText (kind : String)
  /-- A value that no node can have as an argument. -/
  | unsupportedArgument (value : Value)
  /-- A value that has no written form. -/
  | unwritable (value : Value)
  /-- A value that is no datum, where one is written. -/
  | notDatum (kind : String)
  /-- A listing that is no array. -/
  | listingKind (kind : String)
  /-- A value without a certain capability, such as having members. -/
  | lacks (kind : String) (capability : String)
  /-- An object without a certain member. -/
  | missingMember (name : String)
  /-- A node is asked for by a datum that is no id. -/
  | missingNode (name : Json)
  | badInteger (text : String)
  | longInteger (digits : Nat)
  /-- An integer with more digits than are written. -/
  | hugeInteger
  | badNumber (text : String)
  | infiniteInteger
  | undefinedInteger
  /-- An object that is the written form of no argument. -/
  | unknownShape (value : Value)
  /-- A value that is the written form of no argument. -/
  | unknownForm (value : Value)
  /-- A node without an operation. -/
  | malformedNode (id : String)
  /-- More than one node is the result. -/
  | severalResults (ids : List String)
  | cycle
  | listingWithoutProcesses
  /-- A scope is left, and none is active. -/
  | noScope
  /-- An indent of a size that there cannot be. -/
  | indent (cause : Json.IndentFault)
  /-- A path with a character of code zero. -/
  | zeroInPath
  /-- Halves of code pairs in a text that is printed, by their codes, from an offset on. -/
  | unprintable (offset : Nat) (codes : List Nat)

namespace Misuse

def ofIntFault (text : String) : Number.IntFault → Misuse
  | .malformed => .badInteger text
  | .tooLong digits => .longInteger digits

def toClass : Misuse → MisuseClass
  | .noParts _ | .arrayByName | .textByName | .notSequence _ | .notContainer _ | .compoundName _
  | .notIntegral _ | .notText _ | .unsupportedArgument _ | .unwritable _ | .notDatum _ | .listingKind _ => .kind
  | .lacks .. => .member
  | .missingMember _ | .missingNode _ => .name
  | .infiniteInteger => .range
  | .badInteger _ | .longInteger _ | .hugeInteger | .badNumber _ | .undefinedInteger
  | .unknownShape _ | .unknownForm _ | .malformedNode _ | .severalResults _ | .cycle
  | .listingWithoutProcesses => .content
  | .noScope => .state
  | .indent .outOfRange => .range
  | .indent .tooLarge => .memory
  | .indent (.kind _) => .kind
  | .zeroInPath => .content
  | .unprintable .. => .encoding

def textsLiteral (texts : List String) : String :=
  "[" ++ ", ".intercalate (texts.map Text.quoted) ++ "]"

def message : Misuse → String
  | .noParts kind => "'" ++ kind ++ "' object is not subscriptable"
  | .arrayByName => "list indices must be integers or slices, not str"
  | .textByName => "string indices must be integers, not 'str'"
  | .notSequence kind => "'" ++ kind ++ "' object is not iterable"
  | .notContainer kind => "argument of type '" ++ kind ++ "' is not iterable"
  | .compoundName kind => "unhashable type: '" ++ kind ++ "'"
  | .notIntegral kind =>
    "int() argument must be a string, a bytes-like object or a real number, not '" ++ kind ++ "'"
  | .notText kind => "expected string or bytes-like object, got '" ++ kind ++ "'"
  | .unsupportedArgument value =>
    "Unsupported argument value of type '" ++ value.kind ++ "': " ++ value.literal
  | .unwritable value => "Cannot serialize argument of type '" ++ value.kind ++ "': " ++ value.literal
  | .notDatum kind => "Object of type " ++ kind ++ " is not JSON serializable"
  | .listingKind kind => "Operation listing must be a list, got " ++ kind ++ "."
  | .lacks kind capability => "'" ++ kind ++ "' object has no attribute '" ++ capability ++ "'"
  | .missingMember name => Text.quoted name
  | .missingNode name => name.literal
  | .badInteger text =>
    -- a long text is cut after two hundred characters
    "invalid literal for int() with base 10: " ++ ((Text.quoted text).take 200).toString
  | .longInteger digits => Number.tooLongMessage digits
  | .hugeInteger => Number.hugeMessage
  | .badNumber text => "could not convert string to float: " ++ Text.quoted text
  | .infiniteInteger => "cannot convert float infinity to integer"
  | .undefinedInteger => "cannot convert float NaN to integer"
  | .unknownShape value => "Unsupported object argument: " ++ value.literal
  | .unknownForm value => "Unsupported argument value: " ++ value.literal
  | .malformedNode id => "Node '" ++ id ++ "' must be an object with a 'process_id'."
  | .severalResults ids => "Graph has multiple result nodes: " ++ textsLiteral ids
  | .cycle => "Cycle detected in graph"
  | .listingWithoutProcesses => "Operation listing must contain a 'processes' key."
  | .noScope => "No callback scope is active."
  | .indent .outOfRange => "cannot fit 'int' into an index-sized integer"
  | .indent .tooLarge => ""
  | .indent (.kind name) => "can't multiply sequence by non-int of type '" ++ name ++ "'"
  | .zeroInPath => "embedded null byte"
  | .unprintable offset codes =>
    Text.halvesMessage offset codes ++
      "\n*** You may need to add PYTHONIOENCODING=utf-8 to your environment ***"

end Misuse

/-- A datum in a running text, if it has one. -/
def Json.toText (datum : Json) : Except Misuse String :=
  if datum.hasText then .ok datum.text else .error .hugeInteger

@[simp] theorem Json.toText_str (s : String) : (Json.str s).toText = .ok s := rfl

def Value.toText (value : Value) : Except Misuse String :=
  if value.hasText then .ok value.text else .error .hugeInteger

/-- The text that a datum is, where it is looked up among names. Another scalar is no name, and
arrays and objects cannot be looked up. -/
def Json.name? (name : Json) : Except Misuse (Option String) :=
  match name with
  | .scalar (.str s) => .ok (some s)
  | .scalar _ => .ok none
  | other => .error (.compoundName other.kind)

inductive LabelFault where
  | empty
  | numeric
  | notIndex
deriving DecidableEq

def LabelFault.message : LabelFault → String
  | .empty => "empty label"
  | .numeric => "numeric labels are not supported"
  | .notIndex => "only non-negative integers can be used as an index"

inductive TreeFault where
  | notSingle
  /-- The body under a tag does not have its form. -/
  | body (tag : String) (cause : Misuse)

def TreeFault.message : TreeFault → String
  | .notSingle => "expected a mapping with exactly one key"
  | .body tag cause =>
    "invalid '" ++ tag ++ "' body (" ++ cause.toClass.label ++ ": " ++ cause.message ++ ")"

/-- Why a graph cannot be built or a formula not be compiled. -/
inductive FormulaFault where
  /-- The formula has a part of a kind that is not compiled. -/
  | unsupportedConstruct (tag : String)
  /-- An operator has no operation, or one that the catalog does not offer. -/
  | unsupportedOperator (operator : Json) (missing : Option String)
  | unsupportedLabel (label : String) (reason : LabelFault)
  | unknownFunction (function : Json)
  | arityViolation (operation : String) (required declared : Nat)
  | unknownNode (id : String)
  | invalidOperation (operation : Json)
  /-- The formula stands for a value and not for a node. -/
  | nonNodeResult (value : Value)
  | duplicateNode (id : String)
  | malformedTree (datum : Json) (reason : TreeFault)

def FormulaFault.message : FormulaFault → String
  | .unsupportedConstruct tag => "Operation '" ++ tag ++ "' not supported."
  | .unsupportedOperator operator missing =>
    "Operator '" ++ operator.text ++ "' not supported" ++
      match missing with
      | none => ""
      | some operation => ": operation '" ++ operation ++ "' is not in the catalog"
  | .unsupportedLabel label reason =>
    "Unsupported array label '" ++ label ++ "': " ++ reason.message
  | .unknownFunction function =>
    "Function '" ++ function.text ++ "' is not available in the operation catalog."
  | .arityViolation operation required declared =>
    "Operation '" ++ operation ++ "' must have at least " ++ Number.intText required ++
      " parameters, but declares " ++ Number.intText declared ++ "."
  | .unknownNode id => "Node '" ++ id ++ "' does not exist in the graph."
  | .invalidOperation operation =>
    "Cannot create a node for unknown operation '" ++ operation.text ++ "'."
  | .nonNodeResult value =>
    "Invalid formula specified: result " ++ value.literal ++ " is not a process node."
  | .duplicateNode id => "Node with id '" ++ id ++ "' already exists in the graph."
  | .malformedTree datum reason =>
    "Malformed expression tree node " ++ datum.literal ++ ": " ++ reason.message

inductive FileCause where
  | missing
  | exists
  | notDirectory
  | isDirectory
  | nameTooLong
  /-- Anything else, in words. -/
  | other (reason : String)
deriving DecidableEq

/-- A cause in words, with its number if it is known. -/
def FileCause.message : FileCause → String
  | .missing => "[Errno 2] No such file or directory"
  | .exists => "[Errno 17] File exists"
  | .notDirectory => "[Errno 20] Not a directory"
  | .isDirectory => "[Errno 21] Is a directory"
  | .nameTooLong => "[Errno 36] File name too long"
  | .other reason => reason

inductive ConfigFault where
  /-- The file is not written as it should be. -/
  | unreadable (path : String)
  | catalogKind
  | labelsKind
  | labelsChoice (value : String)
deriving DecidableEq

def ConfigFault.message : ConfigFault → String
  | .unreadable path => "Invalid TOML in " ++ path
  | .catalogKind => "Invalid [tool.procgraph].catalog: expected string path"
  | .labelsKind => "Invalid [tool.procgraph].numeric_labels: expected string"
  | .labelsChoice value =>
    "Invalid [tool.procgraph].numeric_labels '" ++ value ++
      "'. Expected one of: 'index', 'label', 'reject'"

inductive MarkupFault where
  /-- No open tag has its name. -/
  | unmatched (tag : String)
  /-- The tag would close any other, but none is open. -/
  | nothingOpen
deriving DecidableEq

/-- The reason in words, with the offset of the tag. -/
def MarkupFault.message (offset : Nat) : MarkupFault → String
  | .unmatched tag =>
    "closing tag '" ++ tag ++ "' at position " ++ Number.intText offset ++ " doesn't match any open tag"
  | .nothingOpen =>
    "closing tag '[/]' at position " ++ Number.intText offset ++ " has nothing to close"

inductive Fault where
  | formula (cause : FormulaFault)
  | misuse (cause : Misuse)
  /-- A text holds no datum. -/
  | unreadable (cause : Json.TextFault)
  /-- An entry of a listing has defects. -/
  | entry (defects : List EntryDefect)
  | config (cause : ConfigFault)
  | file (cause : FileCause) (path : String)
  /-- A closing tag of markup, which starts at an offset, closes nothing. -/
  | markup (cause : MarkupFault) (offset : Nat)
  /-- A part of a tag's value, which gives the arguments of a handler, is no literal. -/
  | handler (cause : Literal.Fault) (literal value : String)

namespace Fault

def textMessage : Json.TextFault → String
  | .defect what place =>
    what.message ++ ": line " ++ Number.intText place.line ++ " column " ++
      Number.intText place.column ++ " (char " ++ Number.intText place.offset ++ ")"
  | .longInteger digits => Number.tooLongMessage digits

def message : Fault → String
  | .formula cause => cause.message
  | .misuse cause => cause.message
  | .unreadable cause => textMessage cause
  | .entry defects => ", ".intercalate (defects.map fun d => d.cause.message)
  | .config cause => cause.message
  | .file cause path => cause.message ++ ": " ++ Text.quoted path
  | .markup cause offset => cause.message offset
  | .handler (.parse cause) literal value =>
    "error parsing " ++ Text.quoted literal ++ " in " ++ Text.quoted value ++ "; " ++ cause.message
  | .handler (.value cause) _ value =>
    "error parsing " ++ Text.quoted value ++ "; " ++ cause.message

/-- Whether the fault lies in the content of a value or a text that is of the right kind. -/
def isContentFault : Fault → Bool
  | .misuse cause => cause.toClass = .content
  | .unreadable _ | .entry _ => true
  | _ => false

def isFormulaFault : Fault → Bool
  | .formula _ => true
  | _ => false

end Fault
end FormulaGraph
