import FormulaGraph.Catalog.Listing
import FormulaGraph.CommandLine.Command
import FormulaGraph.Config
import FormulaGraph.Document.Reader
import FormulaGraph.Document.Writer
import FormulaGraph.Formula.Compile
import FormulaGraph.Host
import FormulaGraph.Json.Printer
import FormulaGraph.Report.Graph
import FormulaGraph.Report.Operators

/-!
# Running commands

A command runs on a host, with two consoles to print on. It ends well, or it stops: with a problem that it has
told, or at a fault that it leaves to whoever runs it. What has been printed before it stops stays printed.
-/

namespace FormulaGraph.CommandLine

/-- The console for what was asked for, and the one for what is said besides. -/
structure Screen where
  out : Console
  err : Console

inductive Stop where
  /-- The problem has been told. -/
  | told
  | fault (cause : Fault)

abbrev Task (m : Type → Type) := ExceptT Stop m

variable {m : Type → Type} [Monad m] [Host m]

def orFault {α : Type} : Except Fault α → Task m α
  | .ok a => pure a
  | .error cause => throw (.fault cause)

def orMisuse {α : Type} : Except Misuse α → Task m α
  | .ok a => pure a
  | .error cause => throw (.fault (.misuse cause))

def orFileFault {α : Type} (p : Path) : Except FileCause α → Task m α
  | .ok a => pure a
  | .error cause => throw (.fault (.file cause p.text))

/-- Sends the texts of an output one by one, and stops at its fault. -/
def emit (send : String → Task m Unit) (o : Output) : Task m Unit := do
  o.texts.forM send
  match o.fault with
  | none => pure ()
  | some cause => throw (.fault cause)

def say (screen : Screen) (markup : String) : Task m Unit :=
  emit Host.remark (.ofPrinted (screen.err.print markup))

def sayFile (screen : Screen) (doing : String) (p : Path) : Task m Unit :=
  say screen ("[cyan]" ++ doing ++ ":[/cyan] " ++ p.text)

def refuse {α : Type} (screen : Screen) (problem : String) : Task m α := do
  say screen ("[red]✗ " ++ problem ++ "[/red]")
  throw .told

def contentOf (p : Path) : Task m String := do
  if p.text.contains '\x00' then throw (.fault (.misuse .zeroInPath))
  orFileFault p (← Host.contentOf p)

def noteAll (events : List Event) : Task m Unit := events.forM Host.note

/-! ### Configuration -/

def firstFile : List Path → m (Option Path)
  | [] => pure none
  | p :: rest => do if ← Host.isFile p then pure (some p) else firstFile rest

/-- The file with the configuration: the nearest in the current directory and those above it. -/
def configFile : m (Option Path) := do
  let start ← Host.currentDirectory
  firstFile (start.ancestors.map (·.child Config.fileName))

/-- The configuration, and nothing configured if there is no file with it. -/
def loadConfig : Task m Config := do
  match ← configFile with
  | none => pure .empty
  | some file => orFault (Config.ofFile file (← contentOf file))

/-- The configuration; what is wrong in it is told. -/
def readConfig (screen : Screen) : Task m Config :=
  tryCatch loadConfig fun
    | .fault (.config cause) => refuse screen (screen.err.escape cause.message)
    | stop => throw stop

/-! ### Compiling -/

def loadCatalog (p : Path) : Task m Catalog := do
  let c ← orFault (Catalog.ofFile (← contentOf p))
  noteAll (c.events ++ [.catalogLoaded c.size p.text])
  return c

def resolveCatalog (screen : Screen) (asked : Option Path) : Task m Catalog := do
  let found ← match asked with
    | some p => pure (some p)
    | none => Config.catalog <$> readConfig screen
  match found with
  | none =>
    refuse screen ("No operation catalog given. Use --catalog or set " ++
      screen.err.escape "[tool.procgraph]" ++ ".catalog")
  | some p =>
    sayFile screen "Loading operation catalog from" p
    loadCatalog p

def loadDatum (p : Path) : Task m Json := do
  match Json.ofFile (← contentOf p) with
  | .ok datum => pure datum
  | .error cause => throw (.fault (.unreadable cause))

/-- Makes a directory, which may be there already. -/
def makeDirectory (p : Path) : Task m Unit := do
  match ← Host.makeDirectory p with
  | .ok () => pure ()
  | .error .missing => throw (.fault (.file .missing p.text))
  | .error cause => if ← Host.isDirectory p then pure () else throw (.fault (.file cause p.text))

/-- Makes a directory and those on the way to it, of which there are at most so many as the number
says. -/
def makeDirectories : Nat → Path → Task m Unit
  | 0, p => makeDirectory p
  | above + 1, p => do
    match ← Host.makeDirectory p with
    | .error .missing =>
      makeDirectories above p.parent
      makeDirectory p
    | .ok () => pure ()
    | .error cause => if ← Host.isDirectory p then pure () else throw (.fault (.file cause p.text))

def CompileRequest.options (request : CompileRequest) (c : Config) : Formula.Options where
  mark := request.mark
  scope :=
    if request.parameters.isEmpty then none else some (request.parameters.map fun name => ⟨name, ""⟩)
  labels := c.labelsOr request.labels

/-- The builder in which a formula has been compiled; why it cannot be compiled is told. -/
def compileTree (screen : Screen) (catalog : Catalog) (tree : Json) (options : Formula.Options) :
    Task m Builder :=
  match Formula.tryCompile [] (.datum tree) options (Builder.empty catalog none) with
  | .ok (.value _) b => do
    noteAll b.journal
    return b
  | .ok (.failure cause) b => do
    noteAll b.journal
    refuse screen (screen.err.escape cause.message)
  | .error cause b => do
    noteAll b.journal
    throw (.fault cause)

def documentText (indent : Int) (document : Json) : Except Misuse String :=
  match document.pretty (some indent) with
  | .ok text => .ok (text ++ "\n")
  | .error cause => .error (.indent cause)

/-- Writes a document to a file, in a directory that is made if it is missing. The file is there, and
empty, also if the document cannot be written with the indent. -/
def storeDocument (screen : Screen) (p : Path) (indent : Int) (document : Json) : Task m Unit := do
  sayFile screen "Writing graph to" p
  makeDirectories p.parent.steps.length p.parent
  match documentText indent document with
  | .ok text => orFileFault p (← Host.store p text)
  | .error cause =>
    orFileFault p (← Host.store p "")
    throw (.fault (.misuse cause))
  Host.note (.graphStored p.text)

def compile (screen : Screen) (request : CompileRequest) : Task m Unit := do
  let options := request.options (← readConfig screen)
  let catalog ← resolveCatalog screen request.catalog
  sayFile screen "Reading expression tree from" request.tree
  let tree ← loadDatum request.tree
  let b ← compileTree screen catalog tree options
  let document ← orMisuse b.write
  match request.output with
  | none => Host.print (← orMisuse (documentText request.indent document))
  | some p => storeDocument screen p request.indent document
  say screen ("[green]✓ Compiled " ++ Number.intText b.size ++ " nodes[/green]")

/-! ### Showing -/

def loadGraph (screen : Screen) (p : Path) : Task m Graph := do
  match Graph.ofFile (← contentOf p) with
  | .ok g =>
    Host.note (.graphLoaded g.size p.text)
    return g
  | .error cause =>
    if cause.isContentFault then refuse screen (screen.err.escape cause.message) else throw (.fault cause)

def showGraph (screen : Screen) (p : Path) : Task m Unit := do
  let g ← loadGraph screen p
  emit Host.print (g.reportOn screen.out)
  let defects := g.check
  for defect in defects do
    say screen ("[yellow]⚠ " ++ screen.err.escape defect.message ++ "[/yellow]")
  if !defects.isEmpty then throw .told

def listOperators (screen : Screen) (catalog : Option Path) : Task m Unit := do
  let catalog ← match catalog with
    | none => pure none
    | some p => some <$> loadCatalog p
  emit Host.print (Operator.reportOn screen.out catalog)

/-! ### Commands -/

def Command.run (screen : Screen) : Command → Task m Unit
  | .compile request => CommandLine.compile screen request
  | .showGraph graph => CommandLine.showGraph screen graph
  | .listOperators catalog => CommandLine.listOperators screen catalog

inductive Ending where
  | done
  /-- A problem was told. -/
  | refused
  | fault (cause : Fault)
  /-- The words are no command. -/
  | misunderstood

def Ending.code : Ending → Nat
  | .done => 0
  | .refused => 1
  | .fault _ => 1
  | .misunderstood => 2

def runOn (screen : Screen) (words : List String) : m Ending :=
  match Command.ofWords words with
  | none => pure .misunderstood
  | some command => do
    match ← (command.run screen).run with
    | .ok () => pure .done
    | .error .told => pure .refused
    | .error (.fault cause) => pure (.fault cause)

end FormulaGraph.CommandLine
