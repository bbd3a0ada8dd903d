import FormulaGraph.Proofs.Formula.Effect
import FormulaGraph.Proofs.Formula.Independence

/-!
# Compiling a formula again

Compiling a formula lowers its expression, which adds nodes, and may then move the flag of the result.
But for flags, builders that are alike come to have copies of the same nodes; and a builder is alike to
itself after a compilation. So a formula that is compiled twice has its nodes twice, and no node in
common: `Formula.lower_independent`.
-/

namespace FormulaGraph

open Build

def Builder.unflagged (b : Builder) : Builder :=
  { b with nodes := NameMap.mapValues Node.unflagged b.nodes }

theorem Node.unflagged_eq {n : Node} (plain : n.isResult = false) : n.unflagged = n := by
  obtain ⟨id, operation, arguments, description, flag⟩ := n
  obtain rfl : flag = false := plain
  rfl

namespace Builder.Adds

variable {b b' c c' : Builder} {xs : NameMap Node}

theorem unflagged (added : Adds b c xs) : Adds b.unflagged c.unflagged xs where
  catalog := added.catalog
  scopes := added.scopes
  plain := added.plain
  nodes := by
    have kept : NameMap.mapValues Node.unflagged xs = xs := by
      refine (List.map_congr_left fun entry member => ?_).trans (List.map_id' xs)
      exact congrArg (Prod.mk entry.1) (Node.unflagged_eq (added.plain entry member))
    rw [Builder.unflagged, added.nodes, NameMap.mapValues, List.map_append]
    exact congrArg _ kept
  fresh := by
    rw [Builder.unflagged, NameMap.keys_mapValues]
    exact added.fresh

theorem congr (added : Adds b c xs) (before : b'.nodes = b.nodes) (after : c'.nodes = c.nodes)
    (catalog : c'.catalog = b'.catalog) (scopes : c'.scopes = b'.scopes) : Adds b' c' xs where
  catalog := catalog
  scopes := scopes
  plain := added.plain
  nodes := by rw [before, after, added.nodes]
  fresh := by
    rw [before]
    exact added.fresh

end Builder.Adds

/-- But for flags, the one builder has come to have copies of the nodes that the other has. -/
def PlainlyAlike (b₁ b₂ c₁ c₂ : Builder) (xs ys : NameMap Node) : Prop :=
  GrownAlike b₁.unflagged b₂.unflagged c₁.unflagged c₂.unflagged xs ys

namespace Formula

open Builder

/-- What two compilations give: a node and its copy, or twice the same argument, without references to
nodes. -/
inductive Answers (xs ys : NameMap Node) : Value → Value → Prop where
  | node (n : Node) : Answers xs ys (.node n) (.node (n.rename (correspond xs ys)))
  | same {v : Value} (argument : v.isArgument = true) (bare : v.nodeRefs = []) : Answers xs ys v v

variable {ctx ctx₁ ctx₂ : Context} {b₁ b₂ c₁ c₂ : Builder} {xs ys : NameMap Node}

/-- A reference to a node comes to the node, flagged if it is marked; nothing else changes but flags. -/
theorem finish_nodeRef {c : Builder} (h : WellFormed c) {id : String} {n : Node}
    (found : c.node? id = some n) (plain : n.isResult = false) (mark : Bool) :
    ∃ d, finish (.nodeRef id) mark c = .ok (.node { n with isResult := mark }) d ∧
      d.unflagged.nodes = c.unflagged.nodes ∧ d.catalog = c.catalog ∧ d.scopes = c.scopes := by
  rw [finish_of_found h found mark]
  cases mark with
  | false =>
    have same : { n with isResult := false } = n := Node.unflagged_eq plain
    exact ⟨c, by rw [same]; rfl, rfl, rfl, rfl⟩
  | true =>
    refine ⟨(c.mark id).record (.marked id), rfl, ?_, rfl, rfl⟩
    change NameMap.mapValues Node.unflagged (c.mark id).nodes = _
    rw [mark_nodes id h.flagged, unflagged_flagOnly]
    rfl

theorem finish_parallel (h₁ : WellFormed c₁) (h₂ : WellFormed c₂)
    (grown : GrownAlike b₁ b₂ c₁ c₂ xs ys) {v w : Value} (copies : Value.Copies xs ys v w) (mark : Bool) :
    Parallel (PlainlyAlike b₁ b₂) Answers (finish v mark c₁) (finish w mark c₂) := by
  have plainly : PlainlyAlike b₁ b₂ c₁ c₂ xs ys :=
    ⟨grown.first.unflagged, grown.second.unflagged, grown.copies⟩
  obtain rfl := copies.renamed
  rcases copies.single with bare | ⟨id, rfl⟩
  · have other : ∀ id, v ≠ .nodeRef id := by
      rintro id rfl
      cases bare
    rw [Value.rename_of_nodeRefs bare, finish_of_other other]
    cases mark with
    | true => exact ⟨rfl, xs, ys, plainly⟩
    | false => exact ⟨xs, ys, plainly, .same copies.argument bare⟩
  · obtain ⟨n, member⟩ := NameMap.exists_of_mem_keys (copies.inside id List.mem_cons_self)
    have copied := grown.copies.mem member
    have found₁ : c₁.node? id = some n := NameMap.get?_of_mem h₁.distinct (by
      rw [grown.first.nodes]
      exact List.mem_append_right _ member)
    have found₂ : c₂.node? (correspond xs ys id) = some (n.rename (correspond xs ys)) :=
      NameMap.get?_of_mem h₂.distinct (by
        rw [grown.second.nodes]
        exact List.mem_append_right _ copied)
    have plain := grown.first.plain _ member
    obtain ⟨d₁, first, nodes₁, catalog₁, scopes₁⟩ := finish_nodeRef h₁ found₁ plain mark
    obtain ⟨d₂, second, nodes₂, catalog₂, scopes₂⟩ := finish_nodeRef h₂ found₂ plain mark
    rw [first, Value.rename, second]
    refine ⟨xs, ys, ⟨?_, ?_, grown.copies⟩, .node { n with isResult := mark }⟩
    · exact plainly.first.congr rfl nodes₁ (catalog₁.trans grown.first.catalog)
        (scopes₁.trans grown.first.scopes)
    · exact plainly.second.congr rfl nodes₂ (catalog₂.trans grown.second.catalog)
        (scopes₂.trans grown.second.scopes)

theorem compileExpr_parallel {e : Expr} (h₁ : WellFormed b₁) (h₂ : WellFormed b₂)
    (alike : Alike ctx₁ ctx₂ b₁ b₂) (nameless : e.nodeIds = []) (mark : Bool) :
    Parallel (PlainlyAlike b₁ b₂) Answers (compileExpr ctx₁ e mark b₁) (compileExpr ctx₂ e mark b₂) := by
  refine (lower_parallel alike nameless).bind_of_imp
    (fun grown => ⟨grown.first.unflagged, grown.second.unflagged, grown.copies⟩)
    fun first second grown copies => ?_
  have kept₁ := conduct_wellFormed.lower ctx₁ e b₁ h₁
  have kept₂ := conduct_wellFormed.lower ctx₂ e b₂ h₂
  rw [final_of_ok first] at kept₁
  rw [final_of_ok second] at kept₂
  exact finish_parallel kept₁ kept₂ grown copies mark

/-! ### Scopes -/

def inside (scope : Scope) (b : Builder) : Builder :=
  let entered := { b with scopes := scope :: b.scopes }
  entered.record (.entered (scope.map (·.name)) entered.depth)

theorem popScope_eq {c : Builder} {scope : Scope} {rest : List Scope} (scopes : c.scopes = scope :: rest) :
    ∃ d, popScope c = .ok scope d ∧ d.nodes = c.nodes ∧ d.catalog = c.catalog ∧ d.scopes = rest := by
  unfold popScope
  rw [scopes]
  exact ⟨_, rfl, rfl, rfl, rfl⟩

theorem withScope_of_ok {α : Type} {action : Build α} {scope : Scope} {b c : Builder} {v : α}
    (done : action (inside scope b) = .ok v c) (scopes : c.scopes = scope :: b.scopes) :
    ∃ d, withScope scope action b = .ok v d ∧ d.nodes = c.nodes ∧ d.catalog = c.catalog ∧
      d.scopes = b.scopes := by
  obtain ⟨d, left, kept⟩ := popScope_eq scopes
  have entered : pushScope scope b = .ok () (inside scope b) := rfl
  exact ⟨d, by simp only [withScope, entered, done, left], kept⟩

theorem withScope_of_error {α : Type} {action : Build α} {scope : Scope} {b c : Builder} {fault : Fault}
    (failed : action (inside scope b) = .error fault c) (scopes : c.scopes = scope :: b.scopes) :
    ∃ d, withScope scope action b = .error fault d ∧ d.nodes = c.nodes ∧ d.catalog = c.catalog ∧
      d.scopes = b.scopes := by
  obtain ⟨d, left, kept⟩ := popScope_eq scopes
  have entered : pushScope scope b = .ok () (inside scope b) := rfl
  exact ⟨d, by simp only [withScope, entered, failed, left], kept⟩

/-- A formula is compiled in a builder with the same nodes, inside of its scope; this is left again without
a fault of its own. -/
theorem run_of_compile {b : Builder} (h : WellFormed b) {source parsed : Source}
    (read : source.accept = .ok parsed) (outer : List Scope) (options : Options) :
    ∃ start : Builder, start.nodes = b.nodes ∧ start.catalog = b.catalog ∧ start.resultId = b.resultId ∧
      (∀ v d, compile outer source options b = .ok v d →
        ∃ c, parsed.compile ⟨outer, options.labels⟩ options.mark start = .ok v c ∧ d.nodes = c.nodes) ∧
      ∀ fault d, compile outer source options b = .error fault d →
        ∃ c, parsed.compile ⟨outer, options.labels⟩ options.mark start = .error fault c ∧ d.nodes = c.nodes := by
  unfold compile
  rw [read]
  dsimp only
  generalize Event.compiling parsed.text = event
  cases options.scope with
  | none => exact ⟨b.record event, rfl, rfl, rfl, fun v d ran => ⟨d, ran, rfl⟩, fun fault d ran => ⟨d, ran, rfl⟩⟩
  | some scope =>
    have sound : WellFormed (inside scope (b.record event)) := h.congr rfl rfl rfl
    have settled := settled_source sound ⟨outer, options.labels⟩ options.mark parsed
    refine ⟨inside scope (b.record event), rfl, rfl, rfl, ?_⟩
    cases ran : parsed.compile ⟨outer, options.labels⟩ options.mark (inside scope (b.record event)) with
    | ok v c =>
      rw [ran] at settled
      obtain ⟨d, left, nodes, _⟩ := withScope_of_ok ran settled.1
      dsimp only
      rw [left]
      constructor
      · intro w d' same
        cases same
        exact ⟨c, rfl, nodes⟩
      · intro fault d' same
        cases same
    | error fault c =>
      rw [ran] at settled
      obtain ⟨d, left, nodes, _⟩ := withScope_of_error ran settled.1
      dsimp only
      rw [left]
      constructor
      · intro v d' same
        cases same
      · intro other d' same
        cases same
        exact ⟨c, rfl, nodes⟩

theorem withScope_parallel {scope : Scope} {action₁ action₂ : Build Value}
    (runs : Parallel (PlainlyAlike (inside scope b₁) (inside scope b₂)) Answers
      (action₁ (inside scope b₁)) (action₂ (inside scope b₂))) :
    Parallel (PlainlyAlike b₁ b₂) Answers (withScope scope action₁ b₁) (withScope scope action₂ b₂) := by
  have left {b c d : Builder} {added : NameMap Node}
      (grown : (inside scope b).unflagged.Adds c.unflagged added) (nodes : d.nodes = c.nodes)
      (catalog : d.catalog = c.catalog) (scopes : d.scopes = b.scopes) :
      b.unflagged.Adds d.unflagged added :=
    grown.congr rfl (congrArg (NameMap.mapValues Node.unflagged) nodes) (catalog.trans grown.catalog) scopes
  rcases runs.cases with ⟨v, w, c₁, c₂, xs, ys, first, second, grown, related⟩ |
    ⟨fault, c₁, c₂, xs, ys, first, second, grown⟩
  · obtain ⟨d₁, done₁, nodes₁, catalog₁, scopes₁⟩ := withScope_of_ok first grown.first.scopes
    obtain ⟨d₂, done₂, nodes₂, catalog₂, scopes₂⟩ := withScope_of_ok second grown.second.scopes
    rw [done₁, done₂]
    exact ⟨xs, ys, ⟨left grown.first nodes₁ catalog₁ scopes₁, left grown.second nodes₂ catalog₂ scopes₂,
      grown.copies⟩, related⟩
  · obtain ⟨d₁, done₁, nodes₁, catalog₁, scopes₁⟩ := withScope_of_error first grown.first.scopes
    obtain ⟨d₂, done₂, nodes₂, catalog₂, scopes₂⟩ := withScope_of_error second grown.second.scopes
    rw [done₁, done₂]
    exact ⟨rfl, xs, ys, left grown.first nodes₁ catalog₁ scopes₁,
      left grown.second nodes₂ catalog₂ scopes₂, grown.copies⟩

theorem compile_parallel {e : Expr} (outer₁ outer₂ : List Scope) (options : Options)
    (h₁ : WellFormed b₁) (h₂ : WellFormed b₂)
    (alike : Alike ⟨outer₁, options.labels⟩ ⟨outer₂, options.labels⟩ b₁ b₂) (nameless : e.nodeIds = []) :
    Parallel (PlainlyAlike b₁ b₂) Answers (compile outer₁ (.expr e) options b₁)
      (compile outer₂ (.expr e) options b₂) := by
  have read : (Source.expr e).parse = .ok (.expr e) := rfl
  rcases accept_cases read with ⟨_, parsed⟩ | ⟨_, refused⟩
  case inr =>
    rw [compile_of_accept_error refused, compile_of_accept_error refused]
    exact ⟨rfl, [], [], GrownAlike.refl _ _⟩
  unfold compile
  rw [parsed]
  dsimp only
  generalize began : Event.compiling (Source.expr e).text = event
  have forget {r₁ r₂}
      (runs : Parallel (PlainlyAlike (b₁.record event) (b₂.record event)) Answers r₁ r₂) :
      Parallel (PlainlyAlike b₁ b₂) Answers r₁ r₂ :=
    runs.imp fun {_ _ xs ys} grown => ⟨xs, ys,
      ⟨grown.first.congr rfl rfl grown.first.catalog grown.first.scopes,
        grown.second.congr rfl rfl grown.second.catalog grown.second.scopes, grown.copies⟩,
      fun related => related⟩
  cases options.scope with
  | none =>
    have recorded : Alike ⟨outer₁, options.labels⟩ ⟨outer₂, options.labels⟩ (b₁.record event)
        (b₂.record event) := ⟨alike.catalog, alike.labels, alike.scope⟩
    exact forget (compileExpr_parallel (h₁.record _) (h₂.record _) recorded nameless options.mark)
  | some scope =>
    have entered : Alike ⟨outer₁, options.labels⟩ ⟨outer₂, options.labels⟩
        (inside scope (b₁.record event)) (inside scope (b₂.record event)) :=
      ⟨alike.catalog, alike.labels, rfl⟩
    have sound₁ : WellFormed (inside scope (b₁.record event)) := h₁.congr rfl rfl rfl
    have sound₂ : WellFormed (inside scope (b₂.record event)) := h₂.congr rfl rfl rfl
    exact forget (withScope_parallel (compileExpr_parallel sound₁ sound₂ entered nameless options.mark))

/-- A builder is alike to what it has become when neither its catalog nor its scopes have changed. -/
theorem alike_self {b c : Builder} (catalog : c.catalog = b.catalog) (scopes : c.scopes = b.scopes) :
    Alike ctx ctx b c where
  catalog := catalog
  labels := rfl
  scope := by rw [currentScope, currentScope, visible, visible, scopes]

/-- What running an action twice comes to: it fails twice in the same way, or the second run adds copies
of the nodes that the first one has added, and gives a copy of what that gave. -/
def RunsTwice (action : Build Value) (b : Builder) : Prop :=
  match action b with
  | .error fault c => ∃ d, action c = .error fault d
  | .ok v c => ∃ w d xs ys, action c = .ok w d ∧
      b.unflagged.Adds c.unflagged xs ∧ c.unflagged.Adds d.unflagged ys ∧
      (NameMap.keys xs).Disjoint (NameMap.keys ys) ∧ Copies xs ys ∧ Answers xs ys v w

theorem frame_of_parallel {action : Build Value}
    (alone : Parallel (PlainlyAlike b₁ b₁) Answers (action b₁) (action b₁)) :
    (action.final b₁).catalog = b₁.catalog ∧ (action.final b₁).scopes = b₁.scopes := by
  rcases alone.cases with ⟨_, _, c, _, _, _, ran, _, grown, _⟩ | ⟨_, c, _, _, _, ran, _, grown⟩
  · rw [final_of_ok ran]
    exact ⟨grown.first.catalog, grown.first.scopes⟩
  · rw [final_of_error ran]
    exact ⟨grown.first.catalog, grown.first.scopes⟩

theorem compile_runsTwice {e : Expr} {b : Builder} (h : WellFormed b) (nameless : e.nodeIds = [])
    (outer : List Scope) (options : Options) : RunsTwice (compile outer (.expr e) options) b := by
  -- against itself a run is parallel; that says what it keeps, so that the next run is parallel to it
  have alone := compile_parallel outer outer options h h (alike_self rfl rfl) nameless
  obtain ⟨catalog, scopes⟩ := frame_of_parallel alone
  have kept := conduct_wellFormed.compile outer (.expr e) options b h
  have again := compile_parallel outer outer options h kept (alike_self catalog scopes) nameless
  unfold RunsTwice
  rcases again.cases with ⟨v, w, c, d, xs, ys, first, second, grown, answers⟩ |
    ⟨fault, c, d, _, _, first, second, _⟩
  · rw [final_of_ok first] at second grown
    rw [first]
    exact ⟨w, d, xs, ys, second, grown.first, grown.second, grown.first.apart grown.second, grown.copies,
      answers⟩
  · rw [final_of_error first] at second
    rw [first]
    exact ⟨d, second⟩

/-- An expression that names no nodes is lowered to copies of the same nodes in all builders with the same
catalog and the same first parameter in scope, whatever else they hold, or fails in all in the same way.
So a formula that is compiled twice in a builder has its nodes twice, with none in common. -/
theorem lower_independent {e : Expr} (nameless : e.nodeIds = []) :
    (∀ ctx₁ ctx₂ b₁ b₂, Alike ctx₁ ctx₂ b₁ b₂ →
      Parallel (GrownAlike b₁ b₂) Value.Copies (lower ctx₁ e b₁) (lower ctx₂ e b₂)) ∧
    (∀ b outer options, b.Reachable → RunsTwice (compile outer (.expr e) options) b) := by
  refine ⟨fun ctx₁ ctx₂ b₁ b₂ alike => lower_parallel alike nameless, ?_⟩
  intro b outer options reachable
  exact compile_runsTwice reachable.wellFormed nameless outer options

def crowded : Builder :=
  (createNode (.str "add") (.list [.number (.int 1), .number (.int 2)]) (some "add1") .null).final
    (.empty Session.sampleCatalog none)

def sumOfProducts : Expr :=
  .binary (.str "+") (.unary (.str "-") (.identifier "x"))
    (.call (.str "multiply") [.identifier "x", .number (.int 2)])

theorem sumOfProducts_independent :
    sumOfProducts.nodeIds = [] ∧
    Parallel (GrownAlike (.empty Session.sampleCatalog none) crowded) Value.Copies
      (lower ⟨[], .index⟩ sumOfProducts (.empty Session.sampleCatalog none))
      (lower ⟨[], .index⟩ sumOfProducts crowded) ∧
    NameMap.keys ((lower ⟨[], .index⟩ sumOfProducts).final (.empty Session.sampleCatalog none)).nodes =
      ["multiply1", "multiply2", "add1"] ∧
    NameMap.keys ((lower ⟨[], .index⟩ sumOfProducts).final crowded).nodes =
      ["add1", "multiply1", "multiply2", "add2"] ∧
    ∃ b, Session.sample.builder? 0 = some b ∧
      RunsTwice (compile [] (.expr sumOfProducts) ⟨true, none, .index⟩) b := by
  have nameless : sumOfProducts.nodeIds = [] := by decide +kernel
  obtain ⟨alike, twice⟩ := lower_independent nameless
  have grown := growth_extends.create (.str "add") (.list [.number (.int 1), .number (.int 2)])
    (some "add1") .null (.empty Session.sampleCatalog none)
  obtain ⟨b, found, _⟩ := Option.map_eq_some_iff.mp Session.sample_first
  refine ⟨nameless, alike _ _ _ _ (alike_self grown.catalog grown.scopes), by decide +kernel,
    by decide +kernel, b, found, twice b [] _ ⟨Session.sample, 0, Session.sample_reachable, found⟩⟩

end Formula
end FormulaGraph
