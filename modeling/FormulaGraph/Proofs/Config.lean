import FormulaGraph.Config
import FormulaGraph.Proofs.Except

/-!
# What a configuration file can hold

A file holds a configuration, or what is wrong in it is told, or it leads `Astray`: the settings are looked up
in values that were not looked at before. `ofFile_reported_iff` says that there is no other way out.
-/

namespace FormulaGraph.Config

variable {file root : Path} {content text name : String} {cause : Misuse} {settings : Toml} {items : List Toml}
  {members : NameMap Toml}

def settingNames : List String := ["catalog", "numeric_labels"]

def Holds (content : String) (settings : Toml) : Prop :=
  ∃ table tools, Toml.read content = .ok table ∧ NameMap.get? table "tool" = some (.table tools) ∧
    NameMap.get? tools "procgraph" = some settings

/-- A value in which no name can be looked for. -/
def Solid : Toml → Prop
  | .table _ | .arr _ | .str _ => False
  | _ => True

/-- Ways in which a file is misused: it has an integer that is too long, something that is no table where the
section is looked for, or something that is no table for the section and seems to have a setting, or in which
none can be looked for. -/
inductive Astray (content : String) : Misuse → Prop where
  | integer {digits : Nat} (long : Toml.read content = .error (.longInteger digits)) :
      Astray content (.longInteger digits)
  | tool {table : NameMap Toml} {tool : Toml} (held : Toml.read content = .ok table)
      (found : NameMap.get? table "tool" = some tool) (other : ∀ tools, tool ≠ .table tools) :
      Astray content (.lacks tool.kind "get")
  | array {items : List Toml} {name : String} (held : Holds content (.arr items)) (listed : name ∈ settingNames)
      (member : .str name ∈ items) : Astray content .arrayByName
  | text {text name : String} (held : Holds content (.str text)) (listed : name ∈ settingNames)
      (part : name.toList <:+: text.toList) : Astray content .textByName
  | solid {settings : Toml} (held : Holds content settings) (present : settings.isTruthy = true)
      (solid : Solid settings) : Astray content (.notContainer settings.kind)

/-- A file holds a configuration, or what is wrong in it is told. -/
def Reported (result : Except Fault Config) : Prop :=
  (∃ c, result = .ok c) ∨ ∃ cause, result = .error (.config cause)

theorem hasPart_iff {part text : List Char} : hasPart part text = true ↔ part <:+: text := by
  induction text with
  | nil => simp [hasPart]
  | cons c rest ih => simp [hasPart, ih, List.infix_cons_iff]

theorem any_isText : items.any (·.isText name) = true ↔ .str name ∈ items := by
  rw [List.any_eq_true]
  constructor
  · rintro ⟨item, member, same⟩
    unfold Toml.isText at same
    split at same
    · rwa [of_decide_eq_true same] at member
    · cases same
  · intro member
    exact ⟨.str name, member, by simp [Toml.isText]⟩

/-! ### Sections -/

theorem readSetting_reported {α : Type} (read : Toml → Except ConfigFault α) {value : Option Toml}
    (found : setting? settings name = .ok value) :
    (∃ a, readSetting settings name read = .ok a) ∨
      ∃ cause, readSetting settings name read = .error (.config cause) := by
  unfold readSetting
  rw [found]
  cases value with
  | none => exact Or.inl ⟨none, rfl⟩
  | some value =>
    dsimp only
    cases read value with
    | ok a => exact Or.inl ⟨some a, rfl⟩
    | error cause => exact Or.inr ⟨cause, rfl⟩

theorem readSetting_none {α : Type} {read : Toml → Except ConfigFault α}
    (bare : setting? settings name = .ok none) : readSetting settings name read = .ok none := by
  rw [readSetting, bare]

theorem readSetting_misuse {α : Type} {read : Toml → Except ConfigFault α}
    (wrong : setting? settings name = .error cause) : readSetting settings name read = .error (.misuse cause) := by
  rw [readSetting, wrong]

theorem reported_ofSettings (found : ∀ name ∈ settingNames, ∃ value, setting? settings name = .ok value) :
    Reported (ofSettings root settings) := by
  obtain ⟨_, first⟩ := found "catalog" (by decide)
  obtain ⟨_, second⟩ := found "numeric_labels" (by decide)
  unfold ofSettings
  rcases readSetting_reported (readCatalog root) first with ⟨catalog, same⟩ | ⟨cause, same⟩
  · rw [same]
    rcases readSetting_reported readLabels second with ⟨labels, same⟩ | ⟨cause, same⟩
    · exact Or.inl ⟨⟨catalog, labels, some root⟩, by rw [same]; rfl⟩
    · exact Or.inr ⟨cause, by rw [same]; rfl⟩
  · exact Or.inr ⟨cause, by rw [same]; rfl⟩

/-- Where one setting is asked for wrongly and the other one too or in vain, that is what comes out. -/
theorem misused_ofSettings (listed : name ∈ settingNames) (wrong : setting? settings name = .error cause)
    (alike : ∀ other ∈ settingNames, setting? settings other = .error cause ∨ setting? settings other = .ok none) :
    ofSettings root settings = .error (.misuse cause) := by
  unfold ofSettings
  rcases alike "catalog" (by decide) with first | first
  · rw [readSetting_misuse first]
    rfl
  · rw [readSetting_none first]
    simp only [settingNames, List.mem_cons, List.not_mem_nil, or_false] at listed
    rcases listed with rfl | rfl
    · rw [first] at wrong
      cases wrong
    · rw [readSetting_misuse wrong]
      rfl

theorem setting?_of_mem (member : .str name ∈ items) : setting? (.arr items) name = .error .arrayByName := by
  rw [setting?, if_pos (any_isText.mpr member)]

theorem setting?_of_not_mem (absent : .str name ∉ items) : setting? (.arr items) name = .ok none := by
  rw [setting?, if_neg (mt any_isText.mp absent)]

theorem setting?_of_part (part : name.toList <:+: text.toList) :
    setting? (.str text) name = .error .textByName := by
  rw [setting?, if_pos (hasPart_iff.mpr part)]

theorem setting?_of_no_part (absent : ¬ name.toList <:+: text.toList) :
    setting? (.str text) name = .ok none := by
  rw [setting?, if_neg (mt hasPart_iff.mp absent)]

theorem setting?_of_solid (solid : Solid settings) (name : String) :
    setting? settings name = .error (.notContainer settings.kind) := by
  unfold setting?
  split
  · cases solid
  · cases solid
  · cases solid
  · rfl

theorem ofSettings_of_array (listed : name ∈ settingNames) (member : .str name ∈ items) :
    ofSettings root (.arr items) = .error (.misuse .arrayByName) := by
  refine misused_ofSettings listed (setting?_of_mem member) fun other _ => ?_
  by_cases inside : .str other ∈ items
  · exact Or.inl (setting?_of_mem inside)
  · exact Or.inr (setting?_of_not_mem inside)

theorem ofSettings_of_text (listed : name ∈ settingNames) (part : name.toList <:+: text.toList) :
    ofSettings root (.str text) = .error (.misuse .textByName) := by
  refine misused_ofSettings listed (setting?_of_part part) fun other _ => ?_
  by_cases inside : other.toList <:+: text.toList
  · exact Or.inl (setting?_of_part inside)
  · exact Or.inr (setting?_of_no_part inside)

theorem ofSettings_of_solid (solid : Solid settings) :
    ofSettings root settings = .error (.misuse (.notContainer settings.kind)) := by
  have listed : "catalog" ∈ settingNames := by decide
  refine misused_ofSettings listed (setting?_of_solid solid _) fun other _ => ?_
  exact Or.inl (setting?_of_solid solid other)

/-! ### Files -/

theorem ofFile_of_holds (held : Holds content settings) : ofFile file content =
    if settings.isTruthy = true then ofSettings file.parent settings else .ok ⟨none, none, some file.parent⟩ := by
  obtain ⟨table, tools, read, tool, found⟩ := held
  rw [ofFile, read]
  dsimp only
  have whole : settings? table = .ok (some settings) := by
    rw [settings?, tool]
    exact congrArg Except.ok found
  rw [ofTable, whole]

/-- A file that leads astray is no configuration, and what is wrong in it is not told. -/
theorem Astray.ofFile (astray : Astray content cause) : ofFile file content = .error (.misuse cause) := by
  cases astray with
  | integer long => rw [Config.ofFile, long]
  | @tool table tool held found other =>
    have wrong : settings? table = .error (.lacks tool.kind "get") := by
      rw [settings?, found]
      split
      · rename_i none
        cases none
      · rename_i tools same
        exact absurd (Option.some.inj same) (other tools)
      · rename_i some same
        rw [Option.some.inj same]
    rw [Config.ofFile, held]
    dsimp only
    rw [ofTable, wrong]
  | @array items name held listed member =>
    have present : (Toml.arr items).isTruthy = true := by
      cases items with
      | nil => cases member
      | cons item rest => rfl
    rw [ofFile_of_holds held, if_pos present, ofSettings_of_array listed member]
  | @text text name held listed part =>
    have present : (Toml.str text).isTruthy = true := by
      refine decide_eq_true fun nothing => ?_
      rw [nothing, String.toList_empty, List.infix_nil] at part
      simp only [settingNames, List.mem_cons, List.not_mem_nil, or_false] at listed
      rcases listed with rfl | rfl <;> cases part
    rw [ofFile_of_holds held, if_pos present, ofSettings_of_text listed part]
  | solid held present solid => rw [ofFile_of_holds held, if_pos present, ofSettings_of_solid solid]

theorem reported_or_astray_of_holds (file : Path) (held : Holds content settings) :
    Reported (ofFile file content) ∨ ∃ cause, Astray content cause := by
  rw [ofFile_of_holds held]
  by_cases present : settings.isTruthy = true
  · rw [if_pos present]
    -- only a table has settings; what else is asked for them is refused or seems to have none
    cases settings with
    | table members => exact Or.inl (reported_ofSettings fun name _ => ⟨_, rfl⟩)
    | arr items =>
      by_cases named : ∃ name ∈ settingNames, .str name ∈ items
      · obtain ⟨name, listed, member⟩ := named
        exact Or.inr ⟨_, .array held listed member⟩
      · refine Or.inl (reported_ofSettings fun name listed => ⟨none, setting?_of_not_mem fun member => ?_⟩)
        exact named ⟨name, listed, member⟩
    | moment kind text => exact Or.inr ⟨_, .solid held present trivial⟩
    | scalar value =>
      cases value with
      | str text =>
        by_cases named : ∃ name ∈ settingNames, name.toList <:+: text.toList
        · obtain ⟨name, listed, part⟩ := named
          exact Or.inr ⟨_, .text held listed part⟩
        · refine Or.inl (reported_ofSettings fun name listed => ⟨none, setting?_of_no_part fun part => ?_⟩)
          exact named ⟨name, listed, part⟩
      | null | bool | number => exact Or.inr ⟨_, .solid held present trivial⟩
  · rw [if_neg present]
    exact Or.inl (Or.inl ⟨_, rfl⟩)

theorem reported_or_astray (file : Path) (content : String) :
    Reported (ofFile file content) ∨ ∃ cause, Astray content cause := by
  cases read : Toml.read content with
  | error fault =>
    cases fault with
    | malformed => exact Or.inl (Or.inr ⟨.unreadable file.text, by rw [ofFile, read]⟩)
    | longInteger digits => exact Or.inr ⟨_, .integer read⟩
  | ok table =>
    have nothing (absent : settings? table = .ok none) : Reported (ofFile file content) := by
      rw [ofFile, read]
      dsimp only
      rw [ofTable, absent]
      exact Or.inl ⟨_, rfl⟩
    cases tool : NameMap.get? table "tool" with
    | none => exact Or.inl (nothing (by rw [settings?, tool]))
    | some value =>
      cases value with
      | table tools =>
        cases found : NameMap.get? tools "procgraph" with
        | none =>
          refine Or.inl (nothing ?_)
          rw [settings?, tool]
          exact congrArg Except.ok found
        | some settings => exact reported_or_astray_of_holds file ⟨table, tools, read, tool, found⟩
      | scalar | moment | arr => exact Or.inr ⟨_, .tool read tool nofun⟩

/-- From every file that leads nowhere astray a configuration is read, or what is wrong in it is told; and one
that leads astray fails with what it is misused for. -/
theorem ofFile_reported_iff (file : Path) (content : String) :
    (Reported (ofFile file content) ↔ ∀ cause, ¬ Astray content cause) ∧
      ∀ cause, ofFile file content = .error (.misuse cause) ↔ Astray content cause := by
  have apart {cause : Misuse} (astray : Astray content cause) : ¬ Reported (ofFile file content) := by
    rw [astray.ofFile]
    rintro (⟨c, same⟩ | ⟨told, same⟩) <;> cases same
  constructor
  · constructor
    · exact fun reported cause astray => apart astray reported
    · intro nowhere
      rcases reported_or_astray file content with reported | ⟨cause, astray⟩
      · exact reported
      · exact absurd astray (nowhere cause)
  · intro cause
    constructor
    · intro failed
      rcases reported_or_astray file content with reported | ⟨other, astray⟩
      · rw [failed] at reported
        rcases reported with ⟨c, same⟩ | ⟨told, same⟩ <;> cases same
      · rw [astray.ofFile] at failed
        cases failed
        exact astray
    · exact Astray.ofFile

instance : DecidablePred Reported
  | .ok c => .isTrue (Or.inl ⟨c, rfl⟩)
  | .error (.config cause) => .isTrue (Or.inr ⟨cause, rfl⟩)
  | .error (.formula _) | .error (.misuse _) | .error (.unreadable _) | .error (.entry _) | .error (.file _ _)
  | .error (.markup _ _) | .error (.handler _ _ _) => .isFalse (by rintro (⟨_, same⟩ | ⟨_, same⟩) <;> cases same)

def failure? (content : String) : Option String := (error? (ofFile ⟨.root, [fileName]⟩ content)).map Fault.message

/-- A number where the section is looked for is taken for a table, and so is a section that is no table. -/
theorem files_astray :
    ¬ Reported (ofFile ⟨.root, [fileName]⟩ "tool = 5") ∧
      failure? "tool = 5" = some "'int' object has no attribute 'get'" ∧
      failure? "[tool]\nprocgraph = 5" = some "argument of type 'int' is not iterable" ∧
      failure? "[tool]\nprocgraph = ['catalog']" = some "list indices must be integers or slices, not str" ∧
      failure? "[tool]\nprocgraph = 'my catalog'" = some "string indices must be integers, not 'str'" := by
  decide +kernel

end FormulaGraph.Config
