import FormulaGraph.Graph.Value

/-!
# Events

What is done with catalogs, builders and graphs is recorded as events, each of which can be told in
words.
-/

namespace FormulaGraph

inductive Event where
  /-- An operation is listed once more, and its last definition counts. -/
  | repeated (operation : String)
  /-- A catalog with so many operations has been read from a file. -/
  | catalogLoaded (size : Nat) (path : String)
  /-- The compilation of a formula has begun. -/
  | compiling (formula : String)
  /-- The compilation of a formula has failed, and the failure is reported as a result. -/
  | failed (message : String)
  | created (id operation : String) (arguments : List (String × Value))
  | marked (id : String)
  | declared (name : String)
  /-- A scope with parameters has become active, and how many are active now. -/
  | entered (names : List String) (depth : Nat)
  /-- A scope with parameters is no longer active, and how many are active now. -/
  | left (names : List String) (depth : Nat)
  | graphStored (path : String)
  /-- A graph with so many nodes has been read from a file. -/
  | graphLoaded (size : Nat) (path : String)

namespace Event

def scopeMessage (verb : String) (names : List String) (depth : Nat) : String :=
  verb ++ " callback scope [" ++ ", ".intercalate (names.map Text.quoted) ++ "] (depth " ++
    Number.intText depth ++ ")"

def message : Event → String
  | .compiling formula => "Compiling formula " ++ formula
  | .failed message => "Formula compilation failed: " ++ message
  | .created id operation arguments =>
    "Created node '" ++ id ++ "' (" ++ operation ++ ") with arguments " ++
      (Value.obj arguments).literal
  | .marked id => "Marked node '" ++ id ++ "' as result"
  | .declared name => "Declared parameter '" ++ name ++ "'"
  | .entered names depth => scopeMessage "Pushed" names depth
  | .left names depth => scopeMessage "Popped" names depth
  | .repeated operation =>
    "Operation '" ++ operation ++ "' is listed more than once, using the last definition"
  | .catalogLoaded size path =>
    "Loaded " ++ Number.intText size ++ " operations from " ++ path
  | .graphStored path => "Exported graph to " ++ path
  | .graphLoaded size path =>
    "Loaded graph with " ++ Number.intText size ++ " nodes from " ++ path

end Event
end FormulaGraph
