import FormulaGraph.FileTree
import FormulaGraph.Host

/-!
# A host in memory

A host whose files are a `FileTree` and whose streams are texts. A command that runs on it is a
function of what the host was before.
-/

namespace FormulaGraph

/-- Files, a current directory, what has been printed, and the events in their order. -/
structure MemoryHost where
  files : FileTree
  current : Location
  printed : String
  remarks : String
  journal : List Event

namespace MemoryHost

def ofFiles (files : FileTree) (current : Location) : MemoryHost := ⟨files, current, "", "", []⟩

def change (edit : MemoryHost → Except FileCause FileTree) : StateM MemoryHost (Except FileCause Unit) :=
  fun host =>
    match edit host with
    | .ok files => (.ok (), { host with files := files })
    | .error cause => (.error cause, host)

instance : Host (StateM MemoryHost) where
  currentDirectory := fun host => (⟨.root, host.current⟩, host)
  isFile p := fun host => ((host.files.contentAt host.current p).isOk, host)
  isDirectory p := fun host => (host.files.nodeAt host.current p matches .ok .directory, host)
  contentOf p := fun host => (host.files.contentAt host.current p, host)
  store p content := change fun host => host.files.store host.current p content
  makeDirectory p := change fun host => host.files.makeDirectory host.current p
  print text := fun host => ((), { host with printed := host.printed ++ text })
  remark text := fun host => ((), { host with remarks := host.remarks ++ text })
  note event := fun host => ((), { host with journal := host.journal ++ [event] })

end MemoryHost
end FormulaGraph
