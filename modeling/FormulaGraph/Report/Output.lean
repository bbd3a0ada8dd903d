import FormulaGraph.Report.Console

/-!
# Output

What a report prints, and the fault that stopped it.
-/

namespace FormulaGraph

/-- Texts that are printed one by one, and the fault that ended the printing. -/
structure Output where
  texts : List String
  fault : Option Fault

namespace Output

def none : Output := ⟨[], .none⟩

def stop (fault : Fault) : Output := ⟨[], some fault⟩

def text (o : Output) : String := String.join o.texts

def ofPrinted : Except Fault String → Output
  | .ok text => ⟨[text], .none⟩
  | .error fault => .stop fault

/-- One output after another, unless the first has stopped. -/
def append (first second : Output) : Output :=
  match first.fault with
  | some _ => first
  | .none => ⟨first.texts ++ second.texts, second.fault⟩

instance : Append Output := ⟨append⟩

end Output
end FormulaGraph
