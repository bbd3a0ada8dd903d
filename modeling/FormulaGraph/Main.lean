import FormulaGraph.CommandLine.Run

/-!
# The program

Runs a command line on the system.
-/

namespace FormulaGraph

def causeOf (e : IO.Error) : FileCause :=
  match e with
  | .noFileOrDirectory .. => .missing
  | .noSuchThing .. => .missing
  | .alreadyExists .. => .exists
  | .inappropriateType _ 21 _ => .isDirectory
  | .inappropriateType .. => .notDirectory
  | .invalidArgument _ 36 _ => .nameTooLong
  | other => .other (toString other)

def attempt {α : Type} (action : IO α) : IO (Except FileCause α) := do
  match ← action.toBaseIO with
  | .ok a => return .ok a
  | .error e => return .error (causeOf e)

instance : Host IO where
  currentDirectory := do return .ofText (← IO.currentDir).toString
  isFile p := do return (← attempt (IO.FS.readFile p.text)).isOk
  isDirectory p := do
    match ← attempt (IO.FS.readFile p.text) with
    | .error .isDirectory => return true
    | _ => return false
  contentOf p := attempt (IO.FS.readFile p.text)
  store p content := attempt (IO.FS.writeFile p.text content)
  makeDirectory p := attempt (IO.FS.createDir p.text)
  print text := IO.print text
  remark text := IO.eprint text
  note _ := pure ()

end FormulaGraph

def main (words : List String) : IO UInt32 := do
  let ending ← FormulaGraph.CommandLine.run words
  match ending with
  | .fault cause => IO.eprintln cause.message
  | .misunderstood => IO.eprintln "usage: (compile TREE | show GRAPH | operators) [OPTION ...]"
  | _ => pure ()
  return ending.code.toUInt32
