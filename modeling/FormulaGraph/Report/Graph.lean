import FormulaGraph.Graph.Check
import FormulaGraph.Graph.Outline
import FormulaGraph.Graph.Reach
import FormulaGraph.Report.Output

/-!
# The report on a graph

The report shows the outline of a graph, the nodes that do not contribute to its result, and the
number of its nodes. What it takes from the graph is escaped, except for the ids of the nodes that do not
contribute.
-/

namespace FormulaGraph

def nodeLabel (c : Console) (id operation : String) : String :=
  "[cyan]" ++ c.escape id ++ "[/cyan] [dim](" ++ c.escape operation ++ ")[/dim]"

def argumentLabel (c : Console) (name : String) : String := "[yellow]" ++ c.escape name ++ "[/yellow]"

def ShownArgument.label (c : Console) : ShownArgument → String
  | .node id => "[bold]#" ++ c.escape id ++ "[/bold]"
  | .callback size => "[magenta]<callback: " ++ Number.intText size ++ " nodes>[/magenta]"
  | .written document => c.escape document.literal

namespace Outline

mutual

def labels (c : Console) : Outline → LabelTree
  | .node id operation arguments => .node (nodeLabel c id operation) (labelsAll c arguments)
  | .again id operation => .node (nodeLabel c id operation ++ " [dim]...[/dim]") []
  | .link name target => .node (argumentLabel c name) [labels c target]
  | .leaf name argument => .node (argumentLabel c name ++ " = " ++ argument.label c) []

def labelsAll (c : Console) : List Outline → List LabelTree
  | [] => []
  | part :: rest => labels c part :: labelsAll c rest

end

end Outline

namespace Graph

/-- The keys of the nodes that do not contribute to the result. -/
def unused (g : Graph) : List String :=
  let used := g.reachableFromResult
  sortNames (g.keys.filter fun key => !used.contains key)

def outlineOutput (c : Console) (part : Outline) : Output :=
  .ofPrinted (c.printTree (.node "[bold]Process graph[/bold]" [part.labels c]))

def unusedOutput (c : Console) (g : Graph) : Output :=
  match g.unused with
  | [] => .none
  | ids =>
    .ofPrinted (c.print ("[yellow]Nodes not contributing to the result:[/yellow] " ++ ", ".intercalate ids))

def totalOutput (c : Console) (g : Graph) : Output :=
  .ofPrinted (c.print ("\n[dim]Total: " ++ Number.intText g.size ++ " nodes[/dim]"))

def reportOn (c : Console) (g : Graph) : Output :=
  match g.outline with
  | .error cause => .stop (.misuse cause)
  | .ok .none => .ofPrinted (c.print "[dim]Graph has no result node[/dim]")
  | .ok (some part) => outlineOutput c part ++ g.unusedOutput c ++ g.totalOutput c

end Graph
end FormulaGraph
