import FormulaGraph.Event
import FormulaGraph.Fault
import FormulaGraph.Path

/-!
# The host of a command

A command reads and writes files and prints on two streams: one for what it was asked for, and one
for what it has to say besides. What it needs of the system that it runs on is a `Host`.
-/

namespace FormulaGraph

/-- A system with files and two streams to print on. -/
class Host (m : Type → Type) where
  currentDirectory : m Path
  /-- Whether a path leads to a file. -/
  isFile : Path → m Bool
  /-- Whether a path leads to a directory. -/
  isDirectory : Path → m Bool
  /-- The content of a file. -/
  contentOf : Path → m (Except FileCause String)
  /-- Gives a file a content; it is made if it is missing. -/
  store : Path → String → m (Except FileCause Unit)
  /-- Makes a directory in one that exists. -/
  makeDirectory : Path → m (Except FileCause Unit)
  /-- Prints what was asked for. -/
  print : String → m Unit
  /-- Prints what is said besides. -/
  remark : String → m Unit
  /-- Takes note of an event. -/
  note : Event → m Unit

/-- An action that may fail runs on the host of the action. -/
instance {m : Type → Type} {ε : Type} [Monad m] [Host m] : Host (ExceptT ε m) where
  currentDirectory := ExceptT.lift Host.currentDirectory
  isFile p := ExceptT.lift (Host.isFile p)
  isDirectory p := ExceptT.lift (Host.isDirectory p)
  contentOf p := ExceptT.lift (Host.contentOf p)
  store p content := ExceptT.lift (Host.store p content)
  makeDirectory p := ExceptT.lift (Host.makeDirectory p)
  print text := ExceptT.lift (Host.print text)
  remark text := ExceptT.lift (Host.remark text)
  note event := ExceptT.lift (Host.note event)

end FormulaGraph
