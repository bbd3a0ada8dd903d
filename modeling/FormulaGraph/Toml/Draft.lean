import FormulaGraph.Toml.Basic

/-!
# Tables in the making

The lines of a configuration file build its table up. A table may be opened by a heading once, and
not after dotted keys have made it; a value that is written with its parts inside brackets is sealed,
so that nothing is added to it. A path is a list of names from the outermost table inward; it leads
through the last table of an array of tables. `get?_addMember` says that a name gets a value once.
-/

namespace FormulaGraph.Toml

/-- The table with a change made inside, in the table that a path leads to. Tables that are missing
are made; none if the path leads through anything else. -/
def changeAt (path : List String) (change : NameMap Toml → Option (NameMap Toml))
    (members : NameMap Toml) : Option (NameMap Toml) :=
  match path with
  | [] => change members
  | name :: rest =>
    match NameMap.get? members name with
    | none => (changeAt rest change []).map fun inner => NameMap.put members name (.table inner)
    | some (.table inner) =>
      (changeAt rest change inner).map fun inner => NameMap.put members name (.table inner)
    | some (.arr items) =>
      match items.getLast? with
      | some (.table inner) =>
        (changeAt rest change inner).map fun inner =>
          NameMap.put members name (.arr (items.dropLast ++ [.table inner]))
      | _ => none
    | some _ => none

def addMember (name : String) (value : Toml) (members : NameMap Toml) : Option (NameMap Toml) :=
  if NameMap.has members name then none else some (NameMap.put members name value)

/-- The table with one more table in the array under a name, which is made if it is missing. -/
def appendTable (name : String) (members : NameMap Toml) : Option (NameMap Toml) :=
  match NameMap.get? members name with
  | none => some (NameMap.put members name (.arr [.table []]))
  | some (.arr items) => some (NameMap.put members name (.arr (items ++ [.table []])))
  | some _ => none

theorem get?_addMember {name : String} {value : Toml} {members changed : NameMap Toml}
    (added : addMember name value members = some changed) :
    NameMap.get? members name = none ∧ NameMap.get? changed name = some value := by
  unfold addMember at added
  split at added
  · simp at added
  · rename_i absent
    simp only [Option.some.injEq] at added
    refine ⟨?_, ?_⟩
    · simpa [NameMap.has] using absent
    · rw [← added, NameMap.get?_put_self]

def splitLast? (path : List String) : Option (List String × String) :=
  path.getLast?.map fun name => (path.dropLast, name)

def leadsInto (paths : List (List String)) (path : List String) : Bool :=
  paths.any fun outer => outer.isPrefixOf path

structure Draft where
  members : NameMap Toml
  /-- The path of the table that the last heading has opened. -/
  heading : List String
  /-- The paths of sealed values. -/
  closed : List (List String)
  /-- The paths of tables that no heading opens any more. -/
  opened : List (List String)
  /-- The paths of tables that dotted keys have made since the last heading. -/
  dotted : List (List String)

namespace Draft

def empty : Draft := ⟨[], [], [], [], []⟩

/-- The draft before a heading: what dotted keys have made is not opened any more. -/
def settle (d : Draft) : Draft := { d with opened := d.opened ++ d.dotted, dotted := [] }

def openTable (d : Draft) (path : List String) : Option Draft :=
  let d := d.settle
  if d.opened.contains path || leadsInto d.closed path then none
  else
    (changeAt path some d.members).map fun members =>
      { d with members := members, heading := path, opened := path :: d.opened }

/-- Opens a new table at the end of an array of tables. What was said about the one before is
forgotten. -/
def openItem (d : Draft) (path : List String) : Option Draft :=
  let d := d.settle
  if leadsInto d.closed path then none
  else do
    let (before, name) ← splitLast? path
    let members ← changeAt before (appendTable name) d.members
    let others (paths : List (List String)) : List (List String) := paths.filter fun p => !path.isPrefixOf p
    return { d with
      members := members
      heading := path
      closed := others d.closed
      opened := path :: others d.opened }

def through (d : Draft) (key : List String) : List (List String) :=
  (List.range (key.length - 1)).map fun n => d.heading ++ key.take (n + 1)

def assign (d : Draft) (key : List String) (value : Toml) : Option Draft := do
  let (before, name) ← splitLast? key
  let passed := d.through key
  if passed.any d.opened.contains || leadsInto d.closed (d.heading ++ before) then none
  else
    let members ← changeAt (d.heading ++ before) (addMember name value) d.members
    return { d with
      members := members
      closed := if value.hasParts then (d.heading ++ key) :: d.closed else d.closed
      dotted := passed ++ d.dotted }

end Draft
end FormulaGraph.Toml
