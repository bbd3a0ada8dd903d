import FormulaGraph.Fault
import FormulaGraph.Path

/-!
# Trees of files

Files and directories held in memory, by their places: the names on the way from the root. A path is
followed step by step through directories, so a step to the parent leads out of a directory that must
be there. `node?_put_self` says that what was put at a place is found there, and `node?_put_of_ne` that
nothing else has changed.
-/

namespace FormulaGraph

inductive FileNode where
  | file (content : String)
  | directory
deriving DecidableEq

abbrev Location := List String

/-- Files and directories by their places. The root is a directory that is always there. -/
structure FileTree where
  nodes : List (Location × FileNode)

namespace FileTree

def empty : FileTree := ⟨[]⟩

def node? (t : FileTree) (place : Location) : Option FileNode :=
  if place = [] then some .directory else t.nodes.lookup place

def put (t : FileTree) (place : Location) (node : FileNode) : FileTree :=
  ⟨(place, node) :: t.nodes.filter fun (other, _) => other ≠ place⟩

/-- The tree with a directory at a place and at all places on the way, where there is nothing yet. -/
def putDirectories (t : FileTree) (place : Location) : FileTree :=
  ((List.range (place.length + 1)).map place.take).foldl
    (fun t above => if (t.node? above).isSome then t else t.put above .directory) t

def putFile (t : FileTree) (place : Location) (content : String) : FileTree :=
  (t.putDirectories place.dropLast).put place (.file content)

def maxNameBytes : Nat := 255

/-- The number of bytes that a path is too long with. -/
def tooManyPathBytes : Nat := 4096

/-- The place that steps lead to from a place. There need not be anything at the end. -/
def follow (t : FileTree) : Location → List String → Except FileCause Location
  | place, [] => .ok place
  | place, step :: rest =>
    match t.node? place with
    | some .directory =>
      if maxNameBytes < step.utf8ByteSize then .error .nameTooLong
      else t.follow (if step = ".." then place.dropLast else place ++ [step]) rest
    | some (.file _) => .error .notDirectory
    | none => .error .missing

def locate (t : FileTree) (current : Location) (p : Path) : Except FileCause Location :=
  if tooManyPathBytes ≤ p.text.utf8ByteSize then .error .nameTooLong
  else t.follow (if p.isAbsolute then [] else current) p.steps

def nodeAt (t : FileTree) (current : Location) (p : Path) : Except FileCause FileNode := do
  let place ← t.locate current p
  match t.node? place with
  | some node => .ok node
  | none => .error .missing

def contentAt (t : FileTree) (current : Location) (p : Path) : Except FileCause String := do
  match ← t.nodeAt current p with
  | .file content => .ok content
  | .directory => .error .isDirectory

/-- The tree with a content for the file that a path leads to; it is made if it is missing. -/
def store (t : FileTree) (current : Location) (p : Path) (content : String) : Except FileCause FileTree := do
  let place ← t.locate current p
  match t.node? place with
  | some .directory => .error .isDirectory
  | _ => .ok (t.put place (.file content))

/-- The tree with a directory where a path leads to, and where nothing is yet. -/
def makeDirectory (t : FileTree) (current : Location) (p : Path) : Except FileCause FileTree := do
  let place ← t.locate current p
  match t.node? place with
  | some _ => .error .exists
  | none => .ok (t.put place .directory)

theorem node?_put_self (t : FileTree) {place : Location} (node : FileNode) (inside : place ≠ []) :
    (t.put place node).node? place = some node := by
  simp [node?, put, inside]

theorem lookup_filter_ne {place other : Location} (different : other ≠ place)
    (nodes : List (Location × FileNode)) :
    (nodes.filter fun (held, _) => held ≠ place).lookup other = nodes.lookup other := by
  induction nodes with
  | nil => rfl
  | cons entry rest ih =>
    obtain ⟨held, there⟩ := entry
    by_cases same : held = place
    · have passed : (other == held) = false := by simpa [same] using different
      rw [List.filter_cons_of_neg (by simp [same]), ih, List.lookup_cons, passed]
    · rw [List.filter_cons_of_pos (by simpa using same), List.lookup_cons, List.lookup_cons, ih]

theorem node?_put_of_ne (t : FileTree) {place other : Location} (node : FileNode)
    (different : other ≠ place) : (t.put place node).node? other = t.node? other := by
  have passed : (other == place) = false := by simpa using different
  unfold node? put
  split
  · rfl
  · rw [List.lookup_cons, passed]
    exact lookup_filter_ne different t.nodes

end FileTree
end FormulaGraph
