import FormulaGraph.CommandLine.Task
import FormulaGraph.Host.Memory
import FormulaGraph.Proofs.Report.Graph
import FormulaGraph.Terminal.Tree

/-!
# Showing graphs

On a host in memory and on lawful consoles, a graph that was read is shown and its defects are told after that, in
order, unless its report stops.
-/

namespace FormulaGraph.CommandLine

open Console (Plain styled sentence_empty)

variable {screen : Screen} {α β : Type} {host between after : MemoryHost} {ending : Except Stop β} {a : α} {stop : Stop}
  {task : Task (StateM MemoryHost) α} {next : α → Task (StateM MemoryHost) β}

/-- A task that begins on a host ends in a way, and leaves a host. -/
def Runs (task : Task (StateM MemoryHost) α) (host : MemoryHost) (ending : Except Stop α) (after : MemoryHost) :
    Prop :=
  task.run host = (ending, after)

theorem runs_pure (a : α) (host : MemoryHost) : Runs (pure a) host (.ok a) host := rfl

theorem runs_throw (stop : Stop) (host : MemoryHost) :
    Runs (throw stop : Task (StateM MemoryHost) α) host (.error stop) host := rfl

theorem run_bind (task : Task (StateM MemoryHost) α) (next : α → Task (StateM MemoryHost) β) (host : MemoryHost) :
    (task >>= next).run host =
      match task.run host with
      | (.ok a, between) => (next a).run between
      | (.error stop, between) => (.error stop, between) := by
  change (match task.run host with | (first, between) => ExceptT.bindCont next first between) = _
  rcases task.run host with ⟨first, between⟩
  cases first <;> rfl

theorem Runs.bind (first : Runs task host (.ok a) between) (second : Runs (next a) between ending after) :
    Runs (task >>= next) host ending after := by
  unfold Runs at first second ⊢
  rw [run_bind, first]
  exact second

theorem Runs.bind_error (first : Runs task host (.error stop) after) :
    Runs (task >>= next) host (.error stop) after := by
  unfold Runs at first ⊢
  rw [run_bind, first]

theorem runs_print (text : String) (host : MemoryHost) :
    Runs (Host.print text) host (.ok ()) { host with printed := host.printed ++ text } := rfl

theorem runs_remark (text : String) (host : MemoryHost) :
    Runs (Host.remark text) host (.ok ()) { host with remarks := host.remarks ++ text } := rfl

theorem runs_note (event : Event) (host : MemoryHost) :
    Runs (Host.note event) host (.ok ()) { host with journal := host.journal ++ [event] } := rfl

theorem runs_printAll (texts : List String) (host : MemoryHost) :
    Runs (texts.forM Host.print) host (.ok ()) { host with printed := host.printed ++ String.join texts } := by
  -- text by text: what has been printed grows by each
  induction texts generalizing host with
  | nil =>
    rw [String.join_nil, String.append_empty]
    exact runs_pure () host
  | cons text rest ih =>
    rw [String.join_cons, ← String.append_assoc]
    exact (runs_print text host).bind (ih _)

theorem runs_emit (o : Output) (host : MemoryHost) :
    Runs (emit Host.print o) host (match o.fault with | none => .ok () | some cause => .error (.fault cause))
      { host with printed := host.printed ++ o.text } := by
  refine (runs_printAll o.texts host).bind ?_
  cases o.fault with
  | none => exact runs_pure () _
  | some cause => exact runs_throw (.fault cause) _

def defectMarkup (c : Console) (defect : GraphDefect) : String :=
  "[yellow]⚠ " ++ c.escape defect.message ++ "[/yellow]"

def saidText (c : Console) (markup : String) : String := (Output.ofPrinted (c.print markup)).text

theorem runs_say (lawful : screen.err.Lawful) {markup : String} (sentence : screen.err.Sentence markup)
    (host : MemoryHost) :
    Runs (say screen markup) host (.ok ()) { host with remarks := host.remarks ++ saidText screen.err markup } := by
  obtain ⟨out, printed⟩ := lawful.print markup sentence
  have single : (Output.ofPrinted (.ok out)).text = out := by
    rw [Output.ofPrinted, Output.text, String.join_cons, String.join_nil, String.append_empty]
  rw [say, saidText, printed, single]
  exact Runs.bind ((runs_remark _ host).bind (runs_pure () _)) (runs_pure () _)

theorem sentence_defectMarkup (c : Console) (defect : GraphDefect) : c.Sentence (defectMarkup c defect) := by
  have written : defectMarkup c defect = styled "yellow" ("⚠ " ++ c.escape defect.message ++ "") "" := by
    rw [← String.toList_inj]
    simp [defectMarkup, styled]
  rw [written]
  exact .styled (by decide) (.escaped defect.message (by decide) (by decide)) sentence_empty

def defectsText (c : Console) (g : Graph) : String :=
  String.join (g.check.map fun defect => saidText c (defectMarkup c defect))

theorem runs_tell (lawful : screen.err.Lawful) (defects : List GraphDefect) (host : MemoryHost) :
    Runs (forIn defects PUnit.unit fun defect _ => do
        say screen (defectMarkup screen.err defect)
        pure (.yield PUnit.unit)) host (.ok PUnit.unit)
      { host with
        remarks := host.remarks ++ String.join (defects.map fun d => saidText screen.err (defectMarkup screen.err d)) }
    := by
  induction defects generalizing host with
  | nil =>
    rw [List.map_nil, String.join_nil, String.append_empty]
    exact runs_pure PUnit.unit host
  | cons defect rest ih =>
    rw [List.map_cons, String.join_cons, ← String.append_assoc, List.forIn_cons]
    have first : Runs (do
        say screen (defectMarkup screen.err defect)
        pure (ForInStep.yield PUnit.unit)) host (.ok (.yield PUnit.unit))
        { host with remarks := host.remarks ++ saidText screen.err (defectMarkup screen.err defect) } :=
      (runs_say lawful (sentence_defectMarkup _ defect) host).bind (runs_pure _ _)
    exact first.bind (ih _)

theorem runs_loadGraph {p : Path} {content : String} {g : Graph} (named : p.text.contains '\x00' = false)
    (held : host.files.contentAt host.current p = .ok content) (loaded : Graph.ofFile content = .ok g) :
    Runs (loadGraph screen p) host (.ok g) { host with journal := host.journal ++ [.graphLoaded g.size p.text] } := by
  have read : Runs (contentOf p) host (.ok content) host := by
    have found : Runs (Host.contentOf p) host (.ok (Except.ok content)) host := by
      rw [← held]
      rfl
    unfold contentOf
    simp only [named, Bool.false_eq_true, if_false]
    exact found.bind (runs_pure content host)
  refine read.bind ?_
  rw [loaded]
  exact (runs_note _ host).bind (runs_pure g _)

/-- A file with a graph is shown. Where the report ends well the defects are told after it, and the ending says
whether there are any; where the report stops, that is the end. -/
def Shows (screen : Screen) (p : Path) (g : Graph) (host : MemoryHost) : Prop :=
  ((g.reportOn screen.out).fault = none →
    Runs (showGraph screen p) host (if g.check = [] then .ok () else .error .told)
      { host with
        printed := host.printed ++ (g.reportOn screen.out).text
        remarks := host.remarks ++ defectsText screen.err g
        journal := host.journal ++ [.graphLoaded g.size p.text] }) ∧
  ∀ cause, (g.reportOn screen.out).fault = some cause →
    Runs (showGraph screen p) host (.error (.fault cause))
      { host with
        printed := host.printed ++ (g.reportOn screen.out).text
        journal := host.journal ++ [.graphLoaded g.size p.text] }

theorem shows_of_file (lawful : screen.err.Lawful) {p : Path} {content : String} {g : Graph}
    (named : p.text.contains '\x00' = false) (held : host.files.contentAt host.current p = .ok content)
    (loaded : Graph.ofFile content = .ok g) : Shows screen p g host := by
  have load : Runs (loadGraph screen p) host _ _ := runs_loadGraph named held loaded
  have printed := runs_emit (g.reportOn screen.out)
    { host with journal := host.journal ++ [.graphLoaded g.size p.text] }
  constructor
  · intro fine
    rw [fine] at printed
    refine load.bind (printed.bind ((runs_tell lawful g.check _).bind ?_))
    by_cases sound : g.check = []
    · have empty : ¬ (!g.check.isEmpty) = true := by simp [sound]
      rw [if_neg empty, if_pos sound]
      exact runs_pure () _
    · have some : (!g.check.isEmpty) = true := by simpa using sound
      rw [if_pos some, if_neg sound]
      exact runs_throw .told _
  · intro cause stopped
    rw [stopped] at printed
    exact load.bind printed.bind_error

end FormulaGraph.CommandLine

namespace FormulaGraph.Graph

open CommandLine (Screen Shows shows_of_file)
open Outline (Stops)

/-- On consoles that print every sentence, the report on a graph that was read ends well just if the graph has no
result, or the operations that its result needs are texts, their arguments have texts, and the list of the other
ids is printed, as it is if no bracket opens in them. An operation that is no text, or an argument that has none,
stops it before anything is printed. Where it ends well, whoever shows the graph goes on to tell its defects; else
nothing more is told. -/
theorem shown_of_read {document : Json} {g : Graph} {screen : Screen} (read : Graph.read document = .ok g)
    (out : screen.out.Lawful) (err : screen.err.Lawful) :
    ((g.reportOn screen.out).fault = none ↔ ∀ key, g.resultId = some key →
      g.NamedFrom key ∧ g.ShowableFrom key ∧ (g.unusedOutput screen.out).fault = none) ∧
    ((∀ id ∈ g.unused, '[' ∉ id.toList) → (g.unusedOutput screen.out).fault = none) ∧
    (∀ key, g.resultId = some key → ¬ (g.NamedFrom key ∧ g.ShowableFrom key) →
      ∃ cause, Stops g key cause ∧ g.reportOn screen.out = .stop (.misuse cause)) ∧
    ∀ (host : MemoryHost) (p : Path) (content : String), p.text.contains '\x00' = false →
      host.files.contentAt host.current p = .ok content → Graph.ofFile content = .ok g →
      Shows screen p g host := by
  have loaded := loaded_of_read read
  refine ⟨loaded.report_fault_iff out, unusedOutput_fault out, fun key result stuck => ?_,
    fun host p content named held same => shows_of_file err named held same⟩
  obtain ⟨cause, stopped, stops⟩ := loaded.outline_eq_error stuck result
  exact ⟨cause, stops, by rw [reportOn, stopped]⟩

/-- What a console without styles shows of markup: tags are left out, and a bracket that no letter and no slash
follows is no tag. -/
def untagged (inTag : Bool) : List Char → List Char
  | [] => []
  | c :: rest =>
    if inTag then untagged (c != ']') rest
    else if c = '[' ∧ rest.head?.any (fun next => next.isLower || next = '/') then untagged true rest
    else c :: untagged false rest

mutual

def bareTree : LabelTree → Terminal.Tree
  | .node label below => .node [String.ofList (untagged false label.toList)] (bareTrees below)

def bareTrees : List LabelTree → List Terminal.Tree
  | [] => []
  | label :: rest => bareTree label :: bareTrees rest

end

/-- A console for texts without tags of their own, which need not be escaped. -/
def bareConsole : Console where
  escape text := text
  print markup := .ok (String.ofList (untagged false markup.toList) ++ "\n")
  printTree tree := .ok (String.join ((bareTree tree).lines.map (· ++ "\n")))
  printTable heading rows := .ok (String.join ((heading :: rows).map fun row => " ".intercalate row ++ "\n"))

theorem bareConsole_lawful : bareConsole.Lawful where
  print _ _ := ⟨_, rfl⟩
  printTree _ _ := ⟨_, rfl⟩

def gatherOutline : Outline :=
  .node "a" "sum" [.leaf "data" (.written (.arr [.obj [("from_node", .str "b")]]))]

theorem gather_shown : Graph.read gatherDocument = .ok gather ∧ bareConsole.Lawful ∧
    (gather.reportOn bareConsole).fault = none ∧
    (gather.reportOn bareConsole).text =
      "Process graph\n└── a (sum)\n    └── data = [\x7b'from_node': 'b'\x7d]\n\nTotal: 2 nodes\n" := by
  have read : Graph.read gatherDocument = .ok gather := rfl
  have unused : gather.unused = [] := by cbv
  have untagged : ∀ id ∈ gather.unused, '[' ∉ id.toList := by simp [unused]
  have showable : ∀ value ∈ gather.values, value.showable = true := List.forall_mem_singleton.mpr rfl
  have whole : gather.outline = .ok (some gatherOutline) := rfl
  obtain ⟨ends, listing, _⟩ :=
    @shown_of_read _ _ ⟨bareConsole, bareConsole⟩ read bareConsole_lawful bareConsole_lawful
  refine ⟨read, bareConsole_lawful, ends.mpr fun key _ => ?_, ?_⟩
  · exact ⟨gather_named.namedFrom key, showableFrom_of_values showable key, listing untagged⟩
  · rw [reportOn, whole]
    dsimp only
    rw [unusedOutput, unused]
    decide +kernel

def numeralDocument : Json :=
  .obj [("a", .obj [("process_id", .scalar (.number (.int 5))), ("arguments", .obj []), ("result", .bool true)])]

def tagDocument : Json :=
  .obj
    [("r", .obj [("process_id", .str "p"), ("arguments", .obj []), ("result", .bool true)]),
      ("[/x]", .obj [("process_id", .str "p"), ("arguments", .obj [])])]

def numeral : Graph := ⟨[("a", ⟨"a", .scalar (.number (.int 5)), [], .null, true⟩)], some "a", []⟩

def tag : Graph where
  nodes := [("r", ⟨"r", .str "p", [], .null, true⟩), ("[/x]", ⟨"[/x]", .str "p", [], .null, false⟩)]
  resultId := some "r"
  parameters := []

/-- On any console a number stops the report before anything is printed. A closing tag stops it after the outline,
where the console refuses a tag that closes nothing. -/
theorem reports_stop :
    (Graph.read numeralDocument = .ok numeral ∧ ∀ c, numeral.reportOn c = .stop (.misuse (.notText "int"))) ∧
      Graph.read tagDocument = .ok tag ∧ tag.Named ∧ ∀ c : Console, c.Lawful → ∀ fault,
        c.print "[yellow]Nodes not contributing to the result:[/yellow] [/x]" = .error fault →
        (tag.reportOn c).fault = some fault := by
  have unused : tag.unused = ["[/x]"] := by cbv
  have outlined : tag.outline = .ok (some (.node "r" "p" [])) := rfl
  refine ⟨⟨rfl, fun c => rfl⟩, rfl, by decide, fun c lawful fault refused => ?_⟩
  rw [reportOn_of_outline lawful outlined, unusedOutput, unused]
  exact congrArg (fun printed => (Output.ofPrinted printed).fault) refused

end FormulaGraph.Graph
