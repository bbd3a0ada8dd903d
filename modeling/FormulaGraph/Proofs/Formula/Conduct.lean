import FormulaGraph.Proofs.Builder.Action
import FormulaGraph.Proofs.Expr.Induction
import FormulaGraph.Formula.Compile

/-!
# What compiling keeps

Lowering an expression changes a builder only by creating nodes and by declaring parameters; compiling
also marks a node, enters and leaves a scope, and records events. So a relation that these few
actions keep is kept by all of compiling, on every way out: `Growth.lower` and `Conduct.compile`.
-/

namespace FormulaGraph

open Build

variable {R : Builder → Builder → Prop}

/-- A relation that is kept when nodes are created and parameters declared. -/
structure Growth (R : Builder → Builder → Prop) : Prop where
  refl : ∀ b, R b b
  trans : ∀ a b c, R a b → R b c → R a c
  declare : ∀ parameter, Keeps R (Builder.declare parameter)
  create : ∀ operation arguments id description,
    Keeps R (Builder.createNode operation arguments id description)

/-- A relation that every change of a builder keeps. -/
structure Conduct (R : Builder → Builder → Prop) : Prop extends Growth R where
  mark : ∀ target, Keeps R (Builder.markResult target)
  push : ∀ scope, Keeps R (Builder.pushScope scope)
  pop : Keeps R Builder.popScope
  record : ∀ event b, R b (b.record event)

namespace Growth

variable (growth : Growth R)

include growth

theorem resolveParameter (ctx : Formula.Context) (name : String) :
    Keeps R (Formula.resolveParameter ctx name) := by
  intro b
  have declared := growth.declare ⟨name, ""⟩ b
  unfold final Formula.resolveParameter
  unfold final at declared
  cases b.scopeParameter? ctx.outer name with
  | some p => exact growth.refl b
  | none =>
    cases h : Builder.declare ⟨name, ""⟩ b with
    | ok p b' | error fault b' =>
      rw [h] at declared
      exact declared

theorem resolve (ctx : Formula.Context) (name : String) : Keeps R (Formula.resolve ctx name) := by
  intro b
  have parameter := growth.resolveParameter ctx name b
  unfold final Formula.resolve
  unfold final at parameter
  cases Formula.identifierForm name with
  | keyword value => exact growth.refl b
  | node id =>
    dsimp only
    split
    · rename_i h
      split at h
      · cases h
        exact growth.refl b
      · cases h
    · rename_i h
      split at h
      · cases h
      · cases h
        exact growth.refl b
  | element label =>
    dsimp only
    cases b.currentScope ctx.outer with
    | nil => exact parameter
    | cons first rest =>
      cases Label.selector ctx.labels label with
      | ok selector | error fault => exact growth.refl b
  | plain => exact parameter

theorem resolveDatum (ctx : Formula.Context) (name : Json) : Keeps R (Formula.resolveDatum ctx name) := by
  intro b
  match name with
  | .scalar (.str text) => exact growth.resolve ctx text b
  | .scalar .null | .scalar (.bool _) | .scalar (.number _) | .arr _ | .obj _ => exact growth.refl b

theorem invoke (operation : String) (arguments : Value) :
    Keeps R (Formula.invoke operation arguments) := by
  intro b
  have created := growth.create (.str operation) arguments none .null b
  unfold final Formula.invoke
  unfold final at created
  cases h : Builder.createNode (.str operation) arguments none .null b with
  | ok n b' | error fault b' =>
    rw [h] at created
    exact created

theorem callNode (function : Json) (arguments : List Value) :
    Keeps R (Formula.callNode function arguments) := by
  intro b
  unfold final Formula.callNode
  cases b.catalog.find function with
  | error cause => exact growth.refl b
  | ok found =>
    cases found with
    | none => exact growth.refl b
    | some definition =>
      by_cases few : definition.arity < arguments.length
      · simp only [few, if_true]
        exact growth.refl b
      · simp only [few, if_false]
        exact growth.invoke definition.name (.list arguments) b

theorem operatorNode (operator : Json) (left right : Value) :
    Keeps R (Formula.operatorNode operator left right) := by
  intro b
  unfold final Formula.operatorNode
  cases Operator.find operator with
  | error cause => exact growth.refl b
  | ok found =>
    cases found with
    | none => exact growth.refl b
    | some operation =>
      dsimp only
      cases b.catalog.get? operation with
      | none => exact growth.refl b
      | some definition =>
        dsimp only
        cases Formula.operandNames? definition with
        | none => exact growth.refl b
        | some names => exact growth.invoke operation _ b

theorem negate (operand : Value) : Keeps R (Formula.negate operand) := by
  unfold Formula.negate
  split
  · exact keeps_pure growth.refl _
  · exact growth.operatorNode _ _ _

theorem lowerAll {ctx : Formula.Context} {args : List Expr}
    (each : ∀ arg ∈ args, Keeps R (Formula.lower ctx arg)) : Keeps R (Formula.lowerAll ctx args) := by
  induction args with
  | nil => exact keeps_pure growth.refl _
  | cons arg rest ih =>
    have later := ih fun other member => each other (List.mem_cons_of_mem _ member)
    rw [Formula.lowerAll]
    refine keeps_bind growth.trans (each arg List.mem_cons_self) fun value => ?_
    exact keeps_bind growth.trans later fun values => keeps_pure growth.refl _

theorem lower (ctx : Formula.Context) (e : Expr) : Keeps R (Formula.lower ctx e) := by
  induction e using Expr.induct with
  | number n => exact keeps_pure growth.refl _
  | identifier name => exact growth.resolve ctx name
  | group inner ih => exact ih
  | call function args ih =>
    rw [Formula.lower]
    exact keeps_bind growth.trans (growth.lowerAll ih) fun values => growth.callNode function values
  | binary operator left right ihLeft ihRight =>
    rw [Formula.lower]
    refine keeps_bind growth.trans ihLeft fun a => ?_
    exact keeps_bind growth.trans ihRight fun b => growth.operatorNode operator a b
  | unary operator operand ih =>
    rw [Formula.lower]
    refine keeps_bind growth.trans ih fun value => ?_
    split
    · exact growth.negate value
    · exact keeps_pure growth.refl value

end Growth

namespace Conduct

variable (conduct : Conduct R)

include conduct

theorem getNode (name : Value) : Keeps R (Builder.getNode name) := by
  intro b
  unfold final Builder.getNode
  cases b.find name with
  | error fault => exact conduct.refl b
  | ok found =>
    cases found with
    | none | some n => exact conduct.refl b

theorem finish (value : Value) (mark : Bool) : Keeps R (Formula.finish value mark) := by
  unfold Formula.finish
  split
  · refine keeps_bind conduct.trans (conduct.getNode _) fun n => ?_
    split
    · refine keeps_bind conduct.trans (conduct.mark _) fun _ => ?_
      exact keeps_bind conduct.trans (conduct.getNode _) fun m => keeps_pure conduct.refl _
    · exact keeps_pure conduct.refl _
  · split
    · exact keeps_throw conduct.refl _
    · exact keeps_pure conduct.refl _

theorem compileExpr (ctx : Formula.Context) (e : Expr) (mark : Bool) :
    Keeps R (Formula.compileExpr ctx e mark) :=
  keeps_bind conduct.trans (conduct.toGrowth.lower ctx e) fun value => conduct.finish value mark

theorem withScope {α : Type} (scope : Scope) {action : Build α} (body : Keeps R action) :
    Keeps R (Builder.withScope scope action) := by
  intro b
  have entered := conduct.push scope b
  unfold final Builder.withScope
  cases first : Builder.pushScope scope b with
  | error fault b₁ =>
    rw [final_of_error first] at entered
    exact entered
  | ok _ b₁ =>
    rw [final_of_ok first] at entered
    have done := body b₁
    dsimp only
    cases second : action b₁ with
    | ok _ b₂ | error _ b₂ =>
      simp only [final, second] at done
      have left := conduct.pop b₂
      dsimp only
      cases third : Builder.popScope b₂ with
      | ok _ b₃ | error _ b₃ =>
        simp only [final, third] at left
        exact conduct.trans _ _ _ entered (conduct.trans _ _ _ done left)

theorem compile (outer : List Scope) (source : Formula.Source) (options : Formula.Options) :
    Keeps R (Formula.compile outer source options) := by
  intro b
  have body (parsed : Formula.Source) :
      Keeps R (parsed.compile ⟨outer, options.labels⟩ options.mark) := by
    cases parsed with
    | expr e => exact conduct.compileExpr _ e _
    | datum data => exact keeps_throw conduct.refl _
    | foreign kind text => exact keeps_throw conduct.refl _
  unfold final Formula.compile
  cases source.accept with
  | error fault => exact conduct.refl b
  | ok parsed =>
    dsimp only
    have begun := conduct.record (.compiling parsed.text) b
    cases options.scope with
    | none => exact conduct.trans _ _ _ begun (body parsed _)
    | some scope => exact conduct.trans _ _ _ begun (conduct.withScope scope (body parsed) _)

theorem tryCompile (outer : List Scope) (source : Formula.Source) (options : Formula.Options) :
    Keeps R (Formula.tryCompile outer source options) := by
  intro b
  have compiled := conduct.compile outer source options b
  unfold final Formula.tryCompile
  cases h : Formula.compile outer source options b with
  | ok value b' =>
    rw [final_of_ok h] at compiled
    exact compiled
  | error fault b' =>
    rw [final_of_error h] at compiled
    cases fault with
    | formula cause => exact conduct.trans _ _ _ compiled (conduct.record _ b')
    | misuse | unreadable | entry | config | file | markup | handler => exact compiled

end Conduct
end FormulaGraph
