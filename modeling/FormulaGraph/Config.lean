import FormulaGraph.Formula.Label
import FormulaGraph.Path
import FormulaGraph.Toml.Reader

/-!
# Configuration

The configuration names the catalog and says how labels of digits are understood. It stands in the
section of this program in a project's file, and relative paths in it are taken from the directory of
that file. `Config.ofTable_empty` says that a file without the section configures nothing.
-/

namespace FormulaGraph

structure Config where
  catalog : Option Path
  labels : Option NumericLabels
  /-- The directory of the file that the configuration was read from. -/
  root : Option Path
deriving DecidableEq

namespace Config

def fileName : String := "pyproject.toml"

def empty : Config := ⟨none, none, none⟩

/-- How labels of digits are understood: as asked for, or else as configured, or else as positions. -/
def labelsOr (c : Config) (asked : Option NumericLabels) : NumericLabels :=
  (asked.or c.labels).getD .index

def hasPart (part : List Char) : List Char → Bool
  | [] => part.isEmpty
  | c :: rest => part.isPrefixOf (c :: rest) || hasPart part rest

def settings? (table : NameMap Toml) : Except Misuse (Option Toml) :=
  match NameMap.get? table "tool" with
  | none => .ok none
  | some (.table tools) => .ok (NameMap.get? tools "procgraph")
  | some other => .error (.lacks other.kind "get")

/-- The value of a setting. A section that is no table has none, and it is a misuse to ask for one
that an array or a text seems to have. -/
def setting? (settings : Toml) (name : String) : Except Misuse (Option Toml) :=
  match settings with
  | .table members => .ok (NameMap.get? members name)
  | .arr items => if items.any (·.isText name) then .error .arrayByName else .ok none
  | .str text => if hasPart name.toList text.toList then .error .textByName else .ok none
  | other => .error (.notContainer other.kind)

def readCatalog (root : Path) : Toml → Except ConfigFault Path
  | .str text => .ok (root.join (.ofText text))
  | _ => .error .catalogKind

def readLabels : Toml → Except ConfigFault NumericLabels
  | .str text =>
    match NumericLabels.ofName? (String.ofList (text.toList.map Char.toLower)) with
    | some labels => .ok labels
    | none => .error (.labelsChoice text)
  | _ => .error .labelsKind

def readSetting {α : Type} (settings : Toml) (name : String) (read : Toml → Except ConfigFault α) :
    Except Fault (Option α) :=
  match setting? settings name with
  | .error cause => .error (.misuse cause)
  | .ok none => .ok none
  | .ok (some value) =>
    match read value with
    | .ok a => .ok (some a)
    | .error cause => .error (.config cause)

def ofSettings (root : Path) (settings : Toml) : Except Fault Config := do
  let catalog ← readSetting settings "catalog" (readCatalog root)
  let labels ← readSetting settings "numeric_labels" readLabels
  return ⟨catalog, labels, some root⟩

def ofTable (root : Path) (table : NameMap Toml) : Except Fault Config :=
  match settings? table with
  | .error cause => .error (.misuse cause)
  | .ok none => .ok ⟨none, none, some root⟩
  | .ok (some settings) =>
    if settings.isTruthy then ofSettings root settings else .ok ⟨none, none, some root⟩

def ofFile (file : Path) (content : String) : Except Fault Config :=
  match Toml.read content with
  | .ok table => ofTable file.parent table
  | .error .malformed => .error (.config (.unreadable file.text))
  | .error (.longInteger digits) => .error (.misuse (.longInteger digits))

end Config
end FormulaGraph
