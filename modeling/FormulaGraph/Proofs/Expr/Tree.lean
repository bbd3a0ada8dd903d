import FormulaGraph.Expr.Tree
import FormulaGraph.Proofs.Json.Induction

/-!
# The faults of reading a tree

A datum that is no tree is refused because it has an unknown tag or is malformed; a malformed one that has no
text is misuse. Within the body of a tree node there may be other misuse, and the node blames it on the body:
`Expr.blames` has what each part of the reader may fail with, for one datum at a time.
-/

namespace FormulaGraph

def Expr.tags : List String := ["Number", "Identifier", "Expression", "FunctionCall", "Binary", "Unary"]

def FormulaFault.OfTree (cause : FormulaFault) : Prop :=
  (∃ tag, tag ∉ Expr.tags ∧ cause = .unsupportedConstruct tag) ∨
    ∃ datum reason, datum.hasText = true ∧ cause = .malformedTree datum reason

def Fault.IsFormula (fault : Fault) : Prop := ∃ cause, fault = .formula cause

def Fault.IsOfTree (fault : Fault) : Prop := ∃ cause, fault = .formula cause ∧ cause.OfTree

def Json.Refused (datum : Json) (fault : Fault) : Prop :=
  fault.IsOfTree ∨ fault = .misuse .hugeInteger ∧ datum.hasText = false

/-- Whether a fault is one of trees once it is blamed on a tree node. -/
def Fault.Blamable (fault : Fault) : Prop := fault.IsOfTree ∨ ∃ cause, fault = .misuse cause

section Results

variable {α β : Type} {P : Fault → Prop} {x : Except Fault α} {f : α → Except Fault β}

def FaultsAre (P : Fault → Prop) (x : Except Fault α) : Prop := ∀ fault, x = .error fault → P fault

theorem FaultsAre.ok (a : α) : FaultsAre P (.ok a) := nofun

theorem FaultsAre.error {fault : Fault} (holds : P fault) : FaultsAre P (.error fault : Except Fault α) := by
  rintro _ ⟨rfl⟩
  exact holds

theorem FaultsAre.bind (first : FaultsAre P x) (next : ∀ a, FaultsAre P (f a)) : FaultsAre P (x >>= f) := by
  cases x with
  | ok a => exact next a
  | error fault => exact .error (first fault rfl)

theorem FaultsAre.map (inner : FaultsAre P x) (f : α → β) : FaultsAre P (x.map f) := by
  cases x with
  | ok a => exact .ok _
  | error fault => exact .error (inner fault rfl)

theorem FaultsAre.blamable {datum : Json} (faults : FaultsAre datum.Refused x) : FaultsAre Fault.Blamable x :=
  fun fault failed => (faults fault failed).imp_right fun huge => ⟨_, huge.1⟩

end Results

namespace Expr

theorem blamable_liftMisuse {α : Type} (x : Except Misuse α) :
    FaultsAre Fault.Blamable (liftMisuse x) := by
  cases x with
  | ok a => exact .ok a
  | error cause => exact .error (Or.inr ⟨cause, rfl⟩)

theorem refused_malformed (datum : Json) (reason : TreeFault) : datum.Refused (malformed datum reason) := by
  unfold malformed
  split
  · rename_i worded
    exact Or.inl ⟨_, rfl, Or.inr ⟨datum, reason, worded, rfl⟩⟩
  · rename_i wordless
    exact Or.inr ⟨rfl, Bool.eq_false_iff.mpr wordless⟩

theorem refused_blame {x : Except Fault Expr} (inner : FaultsAre Fault.Blamable x) (datum : Json)
    (tag : String) : FaultsAre datum.Refused (blame datum tag x) := by
  cases x with
  | ok e => exact .ok e
  | error fault =>
    rcases inner fault rfl with ⟨cause, rfl, refused⟩ | ⟨cause, rfl⟩
    · exact .error (Or.inl ⟨cause, rfl, refused⟩)
    · exact .error (refused_malformed datum _)

/-- A datum fails as a tree as it is refused, and as part of one with faults of trees or misuse. -/
structure Blames (datum : Json) : Prop where
  refused : FaultsAre datum.Refused (ofTree datum)
  part : ∀ name, FaultsAre Fault.Blamable (ofPart name datum)
  args : FaultsAre Fault.Blamable (ofArgs datum)
  sequence : FaultsAre Fault.Blamable (ofSequence datum)

theorem blamable_ofItems {items : List Json} (each : ∀ item ∈ items, Blames item) :
    FaultsAre Fault.Blamable (ofItems items) := by
  induction items with
  | nil => exact .ok []
  | cons item rest ih =>
    have first := (each item List.mem_cons_self).refused.blamable
    have later := ih fun other member => each other (List.mem_cons_of_mem item member)
    rw [ofItems]
    exact first.bind fun e => later.bind fun es => .ok _

theorem refused_ofTree_single {tag : String} {body : Json} (inside : Blames body) :
    FaultsAre (Json.obj [(tag, body)]).Refused (ofTree (.obj [(tag, body)])) := by
  have part (name) := inside.part name
  have member (name) := blamable_liftMisuse (body.member name)
  rw [ofTree]
  refine refused_blame ?_ _ _
  -- one case for each tag
  split
  · exact (blamable_liftMisuse _).map _
  split
  · exact (blamable_liftMisuse _).map _
  split
  · exact inside.refused.blamable.map _
  split
  · exact (member "name").bind fun _ => inside.args.bind fun _ => .ok _
  split
  · exact (member "operator").bind fun _ => (part "left").bind fun _ => (part "right").bind fun _ => .ok _
  split
  · exact (member "operator").bind fun _ => (part "expression").bind fun _ => .ok _
  · exact .error (Or.inl ⟨_, rfl, Or.inl ⟨tag, by simp [tags, *], rfl⟩⟩)

theorem blames (datum : Json) : Blames datum := by
  have refused (datum : Json) : datum.Refused (notSingle datum) := refused_malformed datum _
  have single (datum : Json) : (notSingle datum).Blamable :=
    (refused datum).imp_right fun huge => ⟨_, huge.1⟩
  induction datum using Json.induct with
  | scalar s =>
    constructor
    case refused => exact .error (refused _)
    case part => exact fun name => (blamable_liftMisuse _).bind fun _ => .error (single _)
    case args => exact .error (Or.inr ⟨_, rfl⟩)
    case sequence =>
      cases s with
      | str text =>
        rw [ofSequence]
        split
        · exact .ok []
        · exact .error (single _)
      | null | bool | number => exact .error (Or.inr ⟨_, rfl⟩)
  | arr items ih =>
    constructor
    case refused => exact .error (refused _)
    case part => exact fun name => (blamable_liftMisuse _).bind fun _ => .error (single _)
    case args => exact .error (Or.inr ⟨_, rfl⟩)
    case sequence => exact blamable_ofItems ih
  | obj members ih =>
    constructor
    case refused =>
      match members with
      | [] => exact .error (refused _)
      | [(tag, body)] => exact refused_ofTree_single (ih _ List.mem_cons_self)
      | _ :: _ :: _ => exact .error (refused _)
    case part =>
      intro name
      rw [ofPart, ofMember_eq]
      cases found : NameMap.get? members name with
      | none => exact .error (Or.inr ⟨_, rfl⟩)
      | some value => exact (ih _ (NameMap.mem_of_get? found)).refused.blamable
    case args =>
      rw [ofArgs, ofArgsMember_eq]
      cases found : NameMap.get? members "args" with
      | none => exact .ok []
      | some value => exact (ih _ (NameMap.mem_of_get? found)).sequence
    case sequence =>
      match members with
      | [] => exact .ok []
      | (name, _) :: _ => exact .error (single _)

end Expr
end FormulaGraph
