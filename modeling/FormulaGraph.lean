import FormulaGraph.Main
import FormulaGraph.Graph.Lookup
import FormulaGraph.Host.Memory
import FormulaGraph.Session
import FormulaGraph.Proofs.Formula.Effect
import FormulaGraph.Proofs.Formula.Lowering
import FormulaGraph.Proofs.Document.RoundTrip
import FormulaGraph.Proofs.Session.Soundness
import FormulaGraph.Proofs.Formula.Desugaring
import FormulaGraph.Proofs.Document.Written
import FormulaGraph.Proofs.Session.Marks
import FormulaGraph.Proofs.Builder.Replay
import FormulaGraph.Proofs.Graph.Renaming
import FormulaGraph.Proofs.Formula.Independence
import FormulaGraph.Proofs.Formula.Repetition
import FormulaGraph.Proofs.Session.History
import FormulaGraph.Proofs.Session.Commutation
import FormulaGraph.Proofs.Formula.Faults
import FormulaGraph.Proofs.Graph.Cycle
import FormulaGraph.Proofs.Document.File
import FormulaGraph.Proofs.Session.Foreign
import FormulaGraph.Proofs.Builder.Numbering
import FormulaGraph.Proofs.Builder.Contract
import FormulaGraph.Proofs.Formula.Applications
import FormulaGraph.Proofs.Formula.Consumption
import FormulaGraph.Proofs.Formula.Binding
import FormulaGraph.Proofs.Formula.Evaluation
import FormulaGraph.Proofs.Formula.Refusals
import FormulaGraph.Proofs.Document.Sites
import FormulaGraph.Proofs.Document.Reload
import FormulaGraph.Proofs.Graph.Result
import FormulaGraph.Proofs.Expr.Grammar
import FormulaGraph.Proofs.Session.Blocks
import FormulaGraph.Proofs.Formula.Selector
import FormulaGraph.Proofs.Formula.Relabelling
import FormulaGraph.Proofs.Graph.Enumeration
import FormulaGraph.Proofs.Graph.Outline
import FormulaGraph.Proofs.CommandLine.Show
import FormulaGraph.Proofs.Config
import FormulaGraph.Proofs.Catalog.Listing
import FormulaGraph.Proofs.Number.Integral
import FormulaGraph.Proofs.Document.References
import FormulaGraph.Proofs.Document.Coercion
