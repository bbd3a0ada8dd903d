/-!
# Paths

A path leads from the root or from the current directory through directories. Its text has single
slashes and no steps that stay where they are; steps to the parent directory are kept, since what
they lead to depends on the files. `join_of_isAbsolute` says that an absolute path goes its own way.
-/

namespace FormulaGraph

inductive PathStart where
  /-- In the current directory. -/
  | here
  | root
  /-- In the root, written with two slashes. -/
  | doubleRoot
deriving DecidableEq, Inhabited

structure Path where
  start : PathStart
  steps : List String
deriving DecidableEq, Inhabited

namespace Path

def startText : PathStart → String
  | .here => ""
  | .root => "/"
  | .doubleRoot => "//"

def text (p : Path) : String :=
  match p.start, p.steps with
  | .here, [] => "."
  | start, steps => startText start ++ "/".intercalate steps

/-- The start of a path with a text: exactly two slashes at the front are kept apart. -/
def startOf : List Char → PathStart
  | '/' :: '/' :: '/' :: _ => .root
  | '/' :: '/' :: _ => .doubleRoot
  | '/' :: _ => .root
  | _ => .here

def pieces : List Char → List (List Char)
  | [] => [[]]
  | '/' :: rest => [] :: pieces rest
  | c :: rest =>
    match pieces rest with
    | piece :: others => (c :: piece) :: others
    | [] => [[c]]

def ofText (text : String) : Path :=
  let steps := (pieces text.toList).filter fun piece => piece ≠ [] ∧ piece ≠ ['.']
  ⟨startOf text.toList, steps.map String.ofList⟩

def child (p : Path) (name : String) : Path := { p with steps := p.steps ++ [name] }

def isAbsolute (p : Path) : Bool := p.start ≠ .here

/-- A path taken from a directory; an absolute one stays as it is. -/
def join (directory p : Path) : Path :=
  if p.isAbsolute then p else { directory with steps := directory.steps ++ p.steps }

def parent (p : Path) : Path := { p with steps := p.steps.dropLast }

/-- A path and the paths above it, the longest first. -/
def ancestors (p : Path) : List Path :=
  ((List.range (p.steps.length + 1)).map fun n => { p with steps := p.steps.take n }).reverse

theorem join_of_isAbsolute {directory p : Path} (absolute : p.isAbsolute = true) :
    directory.join p = p := by
  simp [join, absolute]

theorem parent_child (p : Path) (name : String) : (p.child name).parent = p := by
  simp [parent, child]

theorem steps_join {directory p : Path} (relative : p.isAbsolute = false) :
    (directory.join p).steps = directory.steps ++ p.steps := by
  simp [join, relative]

end Path
end FormulaGraph
