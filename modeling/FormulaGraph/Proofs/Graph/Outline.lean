import FormulaGraph.Proofs.Graph.Names
import FormulaGraph.Proofs.Graph.Walk
import FormulaGraph.Report.Graph

/-!
# What an outline shows

The mentions of nodes in an outline, from top to bottom, tell all about it: each mention has the operation of
its node, and the arguments of the node stand below its first mention and below no other. So every node that
references lead to from the result has its arguments shown once, and a node that is needed by way of a sequence
only is not mentioned at all. There is no outline just if one of these nodes cannot be shown.
-/

namespace FormulaGraph

open Relation

namespace Outline

/-- A place where a node is named, with the parts below it where its arguments are shown. -/
structure Mention where
  id : String
  operation : String
  below : Option (List Outline)

mutual

/-- The mentions of nodes, from top to bottom. -/
def mentions : Outline → List Mention
  | .node id operation arguments => ⟨id, operation, some arguments⟩ :: mentionsAll arguments
  | .again id operation => [⟨id, operation, none⟩]
  | .link _ target => mentions target
  | .leaf _ _ => []

def mentionsAll : List Outline → List Mention
  | [] => []
  | part :: rest => mentions part ++ mentionsAll rest

end

/-- The nodes whose arguments are shown, as often as they are. -/
def expanded (part : Outline) : List String :=
  (part.mentions.filter fun m => m.below.isSome).map Mention.id

/-- A part stands for an argument: one that refers to a node of the graph has one mention of that node right
below its name, and any other has a line. -/
inductive Depicts (g : Graph) : String × Value → Outline → Prop where
  | node {name id operation : String} {value : Value} {parts : List Outline}
      (target : target? g value = some id) : Depicts g (name, value) (.link name (.node id operation parts))
  | again {name id operation : String} {value : Value} (target : target? g value = some id) :
      Depicts g (name, value) (.link name (.again id operation))
  | leaf {name : String} {value : Value} {argument : ShownArgument} (alone : target? g value = none)
      (shown : showArgument value = .ok argument) : Depicts g (name, value) (.leaf name argument)

/-- A mention has the operation of its node, and what stands below it are the arguments of the node in order. -/
def Mention.Faithful (g : Graph) (m : Mention) : Prop :=
  ∃ n, g.node? m.id = some n ∧ n.operation = .str m.operation ∧
    ∀ parts, m.below = some parts → List.Forall₂ (Depicts g) n.arguments parts

/-- Arguments stand below the mentions of nodes that were not seen before, and below no others. -/
def FirstsFull (seen : List String) : List Mention → Prop
  | [] => True
  | m :: rest => (m.below.isSome = true ↔ m.id ∉ seen) ∧ FirstsFull (m.id :: seen) rest

variable {g : Graph} {key d id : String} {n : Node} {part : Outline} {m : Mention}
  {seen other after : List String} {arguments : NameMap Value} {parts : List Outline} {ms more : List Mention}

theorem mem_mentionsAll : m ∈ mentionsAll parts ↔ ∃ part ∈ parts, m ∈ part.mentions := by
  induction parts with
  | nil => simp [mentionsAll]
  | cons part rest ih => simp [mentionsAll, ih]

theorem mentionsAll_leaf (name : String) (argument : ShownArgument) (parts : List Outline) :
    mentionsAll (.leaf name argument :: parts) = mentionsAll parts := rfl

theorem mentionsAll_again (name id operation : String) (parts : List Outline) :
    mentionsAll (.link name (.again id operation) :: parts) = ⟨id, operation, none⟩ :: mentionsAll parts := rfl

theorem mentionsAll_node (name id operation : String) (inner parts : List Outline) :
    mentionsAll (.link name (.node id operation inner) :: parts) =
      ⟨id, operation, some inner⟩ :: (mentionsAll inner ++ mentionsAll parts) := rfl

theorem mem_expanded : id ∈ part.expanded ↔ ∃ m ∈ part.mentions, m.id = id ∧ m.below.isSome = true := by
  simp only [expanded, List.mem_map, List.mem_filter, and_assoc]
  constructor
  · rintro ⟨m, member, full, same⟩
    exact ⟨m, member, same, full⟩
  · rintro ⟨m, member, same, full⟩
    exact ⟨m, member, full, same⟩

/-! ### First mentions -/

theorem FirstsFull.congr (same : ∀ id, id ∈ seen ↔ id ∈ other) (first : FirstsFull seen ms) :
    FirstsFull other ms := by
  induction ms generalizing seen other with
  | nil => trivial
  | cons m rest ih =>
    refine ⟨by rw [← same]; exact first.1, ih (fun id => ?_) first.2⟩
    rw [List.mem_cons, List.mem_cons, same]

theorem FirstsFull.append (first : FirstsFull seen ms) (later : FirstsFull (seen ++ ms.map Mention.id) more) :
    FirstsFull seen (ms ++ more) := by
  induction ms generalizing seen with
  | nil => simpa using later
  | cons m rest ih =>
    refine ⟨first.1, ih first.2 (later.congr fun id => ?_)⟩
    simp only [List.map_cons, List.cons_append, List.mem_append, List.mem_cons]
    tauto

theorem FirstsFull.exists_full (first : FirstsFull seen ms) (member : m ∈ ms) :
    m.id ∈ seen ∨ ∃ full ∈ ms, full.id = m.id ∧ full.below.isSome = true := by
  induction ms generalizing seen with
  | nil => cases member
  | cons head rest ih =>
    by_cases old : head.id ∈ seen
    · rcases List.mem_cons.mp member with rfl | later
      · exact Or.inl old
      · rcases ih first.2 later with before | ⟨full, inside, found⟩
        · rcases List.mem_cons.mp before with same | before
          · exact Or.inl (same ▸ old)
          · exact Or.inl before
        · exact Or.inr ⟨full, List.mem_cons_of_mem _ inside, found⟩
    · have here : head.below.isSome = true := first.1.mpr old
      rcases List.mem_cons.mp member with rfl | later
      · exact Or.inr ⟨m, List.mem_cons_self, rfl, here⟩
      · rcases ih first.2 later with before | ⟨full, inside, found⟩
        · rcases List.mem_cons.mp before with same | before
          · exact Or.inr ⟨head, List.mem_cons_self, same.symm, here⟩
          · exact Or.inl before
        · exact Or.inr ⟨full, List.mem_cons_of_mem _ inside, found⟩

theorem FirstsFull.nodup (first : FirstsFull seen ms) :
    ((ms.filter fun m => m.below.isSome).map Mention.id).Nodup ∧
      ∀ id ∈ (ms.filter fun m => m.below.isSome).map Mention.id, id ∉ seen := by
  induction ms generalizing seen with
  | nil => simp
  | cons head rest ih =>
    obtain ⟨distinct, apart⟩ := ih first.2
    have outside : ∀ id ∈ (rest.filter fun m => m.below.isSome).map Mention.id, id ∉ seen := fun id member before =>
      apart id member (List.mem_cons_of_mem _ before)
    by_cases full : head.below.isSome = true
    · have fresh : head.id ∉ seen := first.1.mp full
      simp only [List.filter_cons, full, if_true, List.map_cons]
      refine ⟨List.nodup_cons.mpr ⟨fun again => apart _ again List.mem_cons_self, distinct⟩, ?_⟩
      intro id member
      rcases List.mem_cons.mp member with rfl | later
      · exact fresh
      · exact outside id later
    · simp only [List.filter_cons, full]
      exact ⟨distinct, outside⟩

/-! ### What a walk draws -/

theorem Walk.firstsFull (walk : Walk g seen arguments parts after) :
    FirstsFull seen (mentionsAll parts) ∧
      ∀ id, id ∈ after ↔ id ∈ seen ∨ id ∈ (mentionsAll parts).map Mention.id := by
  induction walk with
  | nil seen => exact ⟨trivial, by simp [mentionsAll]⟩
  | leaf alone shown later ih => exact ih
  | @again seen after name id operation value rest parts n target found text before later ih =>
    obtain ⟨first, members⟩ := ih
    rw [mentionsAll_again]
    refine ⟨⟨by simp [before], first.congr fun other => ?_⟩, fun other => ?_⟩
    · rw [List.mem_cons]
      exact ⟨Or.inr, fun given => given.elim (fun same => same ▸ before) (·)⟩
    · rw [members, List.map_cons, List.mem_cons]
      constructor
      · tauto
      · rintro (old | rfl | new)
        · exact Or.inl old
        · exact Or.inl before
        · exact Or.inr new
  | node target found text fresh below later inside ih =>
    obtain ⟨first, members⟩ := inside
    obtain ⟨next, others⟩ := ih
    rw [mentionsAll_node]
    refine ⟨⟨by simp [fresh], first.append (next.congr fun other => ?_)⟩, fun other => ?_⟩
    · rw [members, List.mem_append]
    · rw [others, members]
      simp only [List.mem_cons, List.map_cons, List.map_append, List.mem_append]
      tauto

theorem Walk.depicts (walk : Walk g seen arguments parts after) : List.Forall₂ (Depicts g) arguments parts := by
  induction walk with
  | nil => exact .nil
  | leaf alone shown _ ih => exact .cons (.leaf alone shown) ih
  | again target _ _ _ _ ih => exact .cons (.again target) ih
  | node target _ _ _ _ _ _ ih => exact .cons (.node target) ih

theorem Walk.faithful (walk : Walk g seen arguments parts after) : ∀ m ∈ mentionsAll parts, m.Faithful g := by
  induction walk with
  | nil => simp [mentionsAll]
  | leaf alone shown later ih => exact ih
  | again target found text before later ih =>
    intro m member
    rw [mentionsAll_again] at member
    rcases List.mem_cons.mp member with rfl | later
    · exact ⟨_, found, text, nofun⟩
    · exact ih m later
  | node target found text fresh below later inside ih =>
    intro m member
    rw [mentionsAll_node, List.mem_cons, List.mem_append] at member
    rcases member with rfl | within | later
    · refine ⟨_, found, text, fun parts same => ?_⟩
      obtain rfl := Option.some.inj same
      exact below.depicts
    · exact inside m within
    · exact ih m later

theorem Walk.leads (walk : Walk g seen arguments parts after) :
    ∀ m ∈ mentionsAll parts, ∃ argument ∈ arguments, ∃ id,
      target? g argument.2 = some id ∧ ReflTransGen g.RefersTo id m.id := by
  induction walk with
  | nil => simp [mentionsAll]
  | leaf alone shown later ih =>
    intro m member
    rw [mentionsAll_leaf] at member
    obtain ⟨argument, bound, leads⟩ := ih m member
    exact ⟨argument, List.mem_cons_of_mem _ bound, leads⟩
  | again target found text before later ih =>
    intro m member
    rw [mentionsAll_again] at member
    rcases List.mem_cons.mp member with rfl | later
    · exact ⟨_, List.mem_cons_self, _, target, .refl⟩
    · obtain ⟨argument, bound, leads⟩ := ih m later
      exact ⟨argument, List.mem_cons_of_mem _ bound, leads⟩
  | node target found text fresh below later inside ih =>
    intro m member
    rw [mentionsAll_node, List.mem_cons, List.mem_append] at member
    rcases member with rfl | within | later
    · exact ⟨_, List.mem_cons_self, _, target, .refl⟩
    · obtain ⟨argument, bound, d, leads, path⟩ := inside m within
      obtain ⟨same, present⟩ := target?_eq_some.mp leads
      have refers : g.RefersTo _ d := ⟨_, found, List.mem_map.mpr ⟨argument, bound, same⟩, present⟩
      exact ⟨_, List.mem_cons_self, _, target, path.head refers⟩
    · obtain ⟨argument, bound, leads⟩ := ih m later
      exact ⟨argument, List.mem_cons_of_mem _ bound, leads⟩

/-- What stands below a mention is part of the whole. -/
theorem Walk.inside (walk : Walk g seen arguments parts after) :
    ∀ m ∈ mentionsAll parts, ∀ below, m.below = some below → mentionsAll below ⊆ mentionsAll parts := by
  induction walk with
  | nil => simp [mentionsAll]
  | leaf alone shown later ih => exact ih
  | again target found text before later ih =>
    intro m member below same
    rw [mentionsAll_again] at member ⊢
    rcases List.mem_cons.mp member with rfl | later
    · cases same
    · exact List.subset_cons_of_subset _ (ih m later below same)
  | node target found text fresh walk later inside ih =>
    intro m member below same
    rw [mentionsAll_node] at member ⊢
    rw [List.mem_cons, List.mem_append] at member
    apply List.subset_cons_of_subset
    rcases member with rfl | within | later
    · obtain rfl := Option.some.inj same
      exact List.subset_append_left _ _
    · exact List.Subset.trans (inside m within below same) (List.subset_append_left _ _)
    · exact List.Subset.trans (ih m later below same) (List.subset_append_right _ _)

/-! ### The outline of a node -/

theorem Drawn.exists_node (drawn : Drawn g seen key part after) : ∃ n, g.node? key = some n := by
  cases drawn with
  | again found | node found => exact ⟨_, found⟩

theorem Drawn.exists_mention (drawn : Drawn g seen key part after) : ∃ m ∈ part.mentions, m.id = key := by
  cases drawn with
  | again | node => exact ⟨_, List.mem_cons_self, rfl⟩

theorem Drawn.argument (drawn : Drawn g seen key part after) :
    target? g (.nodeRef key) = some key ∧ Walk g seen [("", .nodeRef key)] [.link "" part] after ∧
      mentionsAll [.link "" part] = part.mentions := by
  have target : target? g (.nodeRef key) = some key :=
    target?_eq_some.mpr ⟨rfl, Graph.has_iff_exists.mpr drawn.exists_node⟩
  exact ⟨target, drawn.walk target (.nil after), by simp [mentionsAll, mentions]⟩

theorem Drawn.firstsFull (drawn : Drawn g seen key part after) : FirstsFull seen part.mentions := by
  obtain ⟨_, walk, same⟩ := drawn.argument
  exact same ▸ walk.firstsFull.1

theorem Drawn.faithful (drawn : Drawn g seen key part after) : ∀ m ∈ part.mentions, m.Faithful g := by
  obtain ⟨_, walk, same⟩ := drawn.argument
  exact same ▸ walk.faithful

theorem Drawn.inside (drawn : Drawn g seen key part after) :
    ∀ m ∈ part.mentions, ∀ below, m.below = some below → mentionsAll below ⊆ part.mentions := by
  obtain ⟨_, walk, same⟩ := drawn.argument
  exact same ▸ walk.inside

theorem Drawn.leads (drawn : Drawn g seen key part after) (member : m ∈ part.mentions) :
    ReflTransGen g.RefersTo key m.id := by
  obtain ⟨target, walk, same⟩ := drawn.argument
  obtain ⟨argument, bound, id, found, path⟩ := walk.leads m (same ▸ member)
  obtain rfl := List.mem_singleton.mp bound
  obtain rfl := Option.some.inj (target.symm.trans found)
  exact path

theorem Depicts.exists_mention {name : String} (depicts : Depicts g (name, .nodeRef d) part)
    (present : g.has d = true) : ∃ m ∈ part.mentions, m.id = d := by
  have target : target? g (.nodeRef d) = some d := target?_eq_some.mpr ⟨rfl, present⟩
  cases depicts with
  | node other | again other =>
    obtain rfl := Option.some.inj (target.symm.trans other)
    exact ⟨_, List.mem_cons_self, rfl⟩
  | leaf alone =>
    rw [target] at alone
    cases alone

theorem exists_of_forall₂ {α β : Type} {R : α → β → Prop} {xs : List α} {ys : List β} {x : α}
    (all : List.Forall₂ R xs ys) (member : x ∈ xs) : ∃ y ∈ ys, R x y := by
  induction all with
  | nil => cases member
  | cons here _ ih =>
    rcases List.mem_cons.mp member with rfl | later
    · exact ⟨_, List.mem_cons_self, here⟩
    · obtain ⟨y, inside, related⟩ := ih later
      exact ⟨y, List.mem_cons_of_mem _ inside, related⟩

/-- What a node refers to is mentioned where its arguments stand. -/
theorem Mention.Faithful.exists_below (faithful : m.Faithful g) (full : m.below.isSome = true)
    (refers : g.RefersTo m.id d) : ∃ below, m.below = some below ∧ ∃ other ∈ mentionsAll below, other.id = d := by
  obtain ⟨n, found, _, shown⟩ := faithful
  obtain ⟨o, again, member, present⟩ := refers
  obtain rfl := Option.some.inj (found.symm.trans again)
  obtain ⟨below, same⟩ := Option.isSome_iff_exists.mp full
  obtain ⟨⟨name, value⟩, bound, rfl⟩ := List.mem_map.mp member
  obtain ⟨part, inside, depicts⟩ := exists_of_forall₂ (shown below same) bound
  obtain ⟨other, mentioned, named⟩ := depicts.exists_mention present
  exact ⟨below, same, other, mem_mentionsAll.mpr ⟨part, inside, mentioned⟩, named⟩

/-- A node that is drawn before any other has those below it that references lead to. -/
theorem Drawn.mem_expanded_iff (drawn : Drawn g [] key part after) :
    id ∈ part.expanded ↔ ReflTransGen g.RefersTo key id := by
  have full {m : Mention} (member : m ∈ part.mentions) : m.id ∈ part.expanded := by
    rcases drawn.firstsFull.exists_full member with before | first
    · cases before
    · exact mem_expanded.mpr first
  constructor
  · intro shown
    obtain ⟨m, member, rfl, _⟩ := mem_expanded.mp shown
    exact drawn.leads member
  · intro path
    -- along the path: where the arguments of a node stand, what it refers to is mentioned
    induction path with
    | refl =>
      obtain ⟨m, member, rfl⟩ := drawn.exists_mention
      exact full member
    | tail _ refers ih =>
      obtain ⟨m, member, rfl, first⟩ := mem_expanded.mp ih
      obtain ⟨below, same, other, inside, rfl⟩ := (drawn.faithful m member).exists_below first refers
      exact full (drawn.inside m member below same inside)

theorem Drawn.mem_mentions_iff (drawn : Drawn g [] key part after) :
    id ∈ part.mentions.map Mention.id ↔ ReflTransGen g.RefersTo key id := by
  constructor
  · intro named
    obtain ⟨m, member, rfl⟩ := List.mem_map.mp named
    exact drawn.leads member
  · intro path
    obtain ⟨m, member, same, _⟩ := mem_expanded.mp (drawn.mem_expanded_iff.mpr path)
    exact List.mem_map.mpr ⟨m, member, same⟩

end Outline

namespace Graph

open Outline

variable {g : Graph} {key id : String} {document : Json}

/-- The operations of all nodes can be shown. -/
def Named (g : Graph) : Prop := ∀ entry ∈ g.nodes, ∃ operation, entry.2.operation = .str operation

instance : Decidable g.Named :=
  inferInstanceAs (Decidable (∀ entry ∈ g.nodes, ∃ operation, entry.2.operation = .str operation))

/-- The operations of the nodes to which references lead from a key can be shown. -/
def NamedFrom (g : Graph) (key : String) : Prop :=
  ∀ id n, ReflTransGen g.RefersTo key id → g.node? id = some n → ∃ operation, n.operation = .str operation

/-- The arguments of the nodes to which references lead from a key can be shown. -/
def ShowableFrom (g : Graph) (key : String) : Prop :=
  ∀ id n, ReflTransGen g.RefersTo key id → g.node? id = some n → ∀ value ∈ n.values, value.showable = true

theorem Named.namedFrom (named : g.Named) (key : String) : g.NamedFrom key := fun _ _ _ found =>
  named _ (NameMap.mem_of_get? found)

theorem showableFrom_of_values (all : ∀ value ∈ g.values, value.showable = true) (key : String) :
    g.ShowableFrom key := fun id n _ found value inside =>
  all value (List.mem_flatMap.mpr ⟨(id, n), NameMap.mem_of_get? found, inside⟩)

theorem Loaded.has_result (loaded : g.Loaded) (result : g.resultId = some key) : g.has key = true := by
  have flagged : key ∈ (g.nodes.filter fun entry => entry.2.isResult).map Prod.fst := by
    rw [loaded.regular.flagged, result]
    exact List.mem_singleton_self key
  obtain ⟨entry, member, rfl⟩ := List.mem_map.mp flagged
  exact NameMap.has_iff.mpr (NameMap.mem_keys (List.mem_filter.mp member).1)

theorem Loaded.ends (loaded : g.Loaded) (present : g.has key = true) {depth : Nat} (room : g.size < depth) :
    Ends g [] key (expand g depth [] key) := by
  have few : (g.unvisited []).length < depth := by
    have all : (g.unvisited []).length ≤ g.keys.length := List.length_filter_le _ _
    have size : g.keys.length = g.size := List.length_map _
    omega
  exact draws_of_loaded loaded depth [] key present few

theorem Loaded.showable_of_showArgument (loaded : g.Loaded) {entry : String × Node} (member : entry ∈ g.nodes)
    {value : Value} (inside : value ∈ entry.2.values) {shown : ShownArgument}
    (done : showArgument value = .ok shown) : value.showable = true := by
  have portable := (loaded.arguments value (List.mem_flatMap.mpr ⟨entry, member, inside⟩)).portable
  rcases showArgument_cases portable with ⟨showable, _⟩ | ⟨_, failed⟩
  · exact showable
  · cases done.symm.trans failed

/-- Where a node is drawn before any other, those that references lead to can be shown. -/
theorem Loaded.clear_of_drawn (loaded : g.Loaded) {part : Outline} {after : List String}
    (drawn : Drawn g [] key part after) : g.NamedFrom key ∧ g.ShowableFrom key := by
  constructor
  · intro id n path found
    obtain ⟨m, member, rfl, _⟩ := mem_expanded.mp (drawn.mem_expanded_iff.mpr path)
    obtain ⟨o, again, text, _⟩ := drawn.faithful m member
    obtain rfl := Option.some.inj (found.symm.trans again)
    exact ⟨m.operation, text⟩
  · intro id n path found value inside
    obtain ⟨m, member, rfl, full⟩ := mem_expanded.mp (drawn.mem_expanded_iff.mpr path)
    obtain ⟨o, again, _, shown⟩ := drawn.faithful m member
    obtain rfl := Option.some.inj (found.symm.trans again)
    obtain ⟨below, same⟩ := Option.isSome_iff_exists.mp full
    obtain ⟨⟨name, value⟩, bound, rfl⟩ := List.mem_map.mp inside
    obtain ⟨part, _, depicts⟩ := exists_of_forall₂ (shown below same) bound
    cases depicts with
    | node target | again target =>
      obtain ⟨rfl, _⟩ := target?_eq_some.mp target
      rfl
    | leaf _ done => exact loaded.showable_of_showArgument (NameMap.mem_of_get? found) inside done

/-- With any bound for the depth above the number of the nodes the same is drawn. -/
theorem Loaded.exists_drawn (loaded : g.Loaded) (named : g.NamedFrom key) (showable : g.ShowableFrom key)
    (present : g.has key = true) :
    ∃ part after, Drawn g [] key part after ∧
      ∀ depth, g.size < depth → expand g depth [] key = .ok (part, after) := by
  have each (depth : Nat) (room : g.size < depth) :
      ∃ part after, expand g depth [] key = .ok (part, after) ∧ Drawn g [] key part after := by
    rcases loaded.ends present room with done | ⟨_, _, d, n, path, found, blocked⟩
    · exact done
    · cases blocked with
      | operation unnamed =>
        obtain ⟨operation, text⟩ := named d n path found
        exact absurd text (unnamed operation)
      | argument member unshown =>
        rw [showable d n path found _ member] at unshown
        cases unshown
  obtain ⟨part, after, _, drawn⟩ := each (g.size + 1) (Nat.lt_succ_self _)
  refine ⟨part, after, drawn, fun depth room => ?_⟩
  obtain ⟨other, last, done, again⟩ := each depth room
  obtain ⟨same, rfl⟩ := drawn.argument.2.1.unique again.argument.2.1
  obtain rfl : part = other := by simpa using same
  exact done

/-- Where some node cannot be shown, that is what stops the walk. -/
theorem Loaded.exists_stop (loaded : g.Loaded) (stuck : ¬ (g.NamedFrom key ∧ g.ShowableFrom key))
    (present : g.has key = true) {depth : Nat} (room : g.size < depth) :
    ∃ cause, expand g depth [] key = .error cause ∧ Stops g key cause := by
  rcases loaded.ends present room with ⟨part, after, _, drawn⟩ | stop
  · exact absurd (loaded.clear_of_drawn drawn) stuck
  · exact stop

theorem outline_of_expand (result : g.resultId = some key) :
    g.outline = (expand g (g.size + 1) [] key).map fun drawn => some drawn.1 := by
  rw [outline, result]

theorem Loaded.exists_outline (loaded : g.Loaded) (named : g.NamedFrom key) (showable : g.ShowableFrom key)
    (result : g.resultId = some key) :
    ∃ part after, g.outline = .ok (some part) ∧ Drawn g [] key part after ∧
      ∀ depth, g.size < depth → expand g depth [] key = .ok (part, after) := by
  obtain ⟨part, after, drawn, done⟩ := loaded.exists_drawn named showable (loaded.has_result result)
  refine ⟨part, after, ?_, drawn, done⟩
  rw [outline_of_expand result, done _ (Nat.lt_succ_self _)]
  rfl

theorem Loaded.outline_eq_error (loaded : g.Loaded) (stuck : ¬ (g.NamedFrom key ∧ g.ShowableFrom key))
    (result : g.resultId = some key) : ∃ cause, g.outline = .error cause ∧ Stops g key cause := by
  obtain ⟨cause, failed, stops⟩ := loaded.exists_stop stuck (loaded.has_result result) (Nat.lt_succ_self g.size)
  refine ⟨cause, ?_, stops⟩
  rw [outline_of_expand result, failed]
  rfl

/-- Where the operations are texts, an argument without one is all that may stop a walk. -/
theorem Named.eq_hugeInteger (named : g.Named) {cause : Misuse} (stops : Stops g key cause) :
    cause = .hugeInteger := by
  obtain ⟨d, n, _, found, blocked⟩ := stops
  cases blocked with
  | operation unnamed =>
    obtain ⟨operation, text⟩ := named _ (NameMap.mem_of_get? found)
    exact absurd text (unnamed operation)
  | argument => rfl

def knotDocument : Json :=
  .obj
    [("a", .obj [("process_id", .str "sum"), ("result", .bool true), ("arguments", .obj
        [("x", .obj [("from_node", .str "b")]), ("y", .obj [("from_node", .str "a")]),
          ("z", .obj [("from_node", .str "b")])])]),
      ("b", .obj [("process_id", .str "sqrt"), ("arguments", .obj [("x", .obj [("from_node", .str "a")])])])]

def knot : Graph where
  nodes :=
    [("a", ⟨"a", .str "sum", [("x", .nodeRef "b"), ("y", .nodeRef "a"), ("z", .nodeRef "b")], .null, true⟩),
      ("b", ⟨"b", .str "sqrt", [("x", .nodeRef "a")], .null, false⟩)]
  resultId := some "a"
  parameters := []

def knotOutline : Outline :=
  .node "a" "sum" [.link "x" (.node "b" "sqrt" [.link "x" (.again "a" "sum")]), .link "y" (.again "a" "sum"),
    .link "z" (.again "b" "sqrt")]

theorem knot_named : knot.Named := by decide

theorem mem_unused_iff : id ∈ g.unused ↔ id ∈ g.keys ∧ id ∉ g.reachableFromResult := by
  rw [unused, (sortNames_perm _).mem_iff, List.mem_filter]
  simp

theorem leadsTo_of_refersTo (present : g.has key = true) (path : ReflTransGen g.RefersTo key id) :
    g.LeadsTo key id :=
  ⟨present, ReflTransGen.mono (fun _ _ refers => refers.dependsOn) _ _ path⟩

/-- A graph whose arguments refer to nodes directly or not at all. -/
def Direct (g : Graph) : Prop :=
  ∀ entry ∈ g.nodes, ∀ d ∈ entry.2.dependencies, Value.nodeRef d ∈ entry.2.values

theorem Direct.refersTo_of_leadsTo (direct : g.Direct) (leads : g.LeadsTo key id) :
    ReflTransGen g.RefersTo key id := by
  refine ReflTransGen.mono (fun a b needed => ?_) _ _ leads.2
  obtain ⟨n, found, member, present⟩ := needed
  exact ⟨n, found, direct _ (NameMap.mem_of_get? found) b member, present⟩

/-- The nodes of a graph that was read are shown where references lead to them from the result, and listed where
the result does not need them. No node is both; and none is neither just if references lead to all that the
result needs, as they do where no reference stands in a sequence. Where a node to which references lead has an
argument without a text, nothing is shown. -/
theorem accounted_of_read (read : Graph.read document = .ok g) (named : g.Named) (result : g.resultId = some key) :
    (g.ShowableFrom key ∧ ∃ part, g.outline = .ok (some part) ∧
      (∀ id, id ∈ part.mentions.map Mention.id ↔ ReflTransGen g.RefersTo key id) ∧
      (∀ id, id ∈ g.unused ↔ id ∈ g.keys ∧ ¬ g.LeadsTo key id) ∧
      (∀ id, ¬ (id ∈ part.mentions.map Mention.id ∧ id ∈ g.unused)) ∧
      ((∀ id ∈ g.keys, id ∈ part.mentions.map Mention.id ∨ id ∈ g.unused) ↔
        ∀ id, g.LeadsTo key id → ReflTransGen g.RefersTo key id) ∧
      (g.Direct → ∀ id ∈ g.keys, id ∈ part.mentions.map Mention.id ∨ id ∈ g.unused)) ∨
    (¬ g.ShowableFrom key ∧ g.outline = .error .hugeInteger) := by
  have loaded := loaded_of_read read
  by_cases showable : g.ShowableFrom key
  · left
    obtain ⟨part, _, outlined, drawn, _⟩ := loaded.exists_outline (named.namedFrom key) showable result
    have present := loaded.has_result result
    have shown (id : String) : id ∈ part.mentions.map Mention.id ↔ ReflTransGen g.RefersTo key id :=
      drawn.mem_mentions_iff
    have listed (id : String) : id ∈ g.unused ↔ id ∈ g.keys ∧ ¬ g.LeadsTo key id := by
      rw [mem_unused_iff, reachableFromResult, result]
      simp only [mem_reachableFrom_iff]
    have all : (∀ id ∈ g.keys, id ∈ part.mentions.map Mention.id ∨ id ∈ g.unused) ↔
        ∀ id, g.LeadsTo key id → ReflTransGen g.RefersTo key id := by
      constructor
      · intro each id leads
        rcases each id (NameMap.has_iff.mp leads.has_right) with mentioned | unused
        · exact (shown id).mp mentioned
        · exact absurd leads ((listed id).mp unused).2
      · intro each id member
        by_cases leads : g.LeadsTo key id
        · exact Or.inl ((shown id).mpr (each id leads))
        · exact Or.inr ((listed id).mpr ⟨member, leads⟩)
    refine ⟨showable, part, outlined, shown, listed, ?_, all,
      fun direct => all.mpr fun id => direct.refersTo_of_leadsTo⟩
    rintro id ⟨mentioned, unused⟩
    exact ((listed id).mp unused).2 (leadsTo_of_refersTo present ((shown id).mp mentioned))
  · right
    obtain ⟨cause, failed, stops⟩ := loaded.outline_eq_error (fun clear => showable clear.2) result
    exact ⟨showable, by rw [failed, named.eq_hugeInteger stops]⟩

theorem knot_accounted : ∃ part, knot.outline = .ok (some part) ∧
    ∀ id ∈ knot.keys, id ∈ part.mentions.map Mention.id ∨ id ∈ knot.unused := by
  have direct : knot.Direct := by
    intro entry member d needed
    rcases List.mem_cons.mp member with rfl | later
    · have either : d ∈ ["b", "a", "b"] := List.mem_eraseDups.mp needed
      simpa [Node.values] using either
    · obtain rfl := List.mem_singleton.mp later
      have same : d ∈ ["a"] := List.mem_eraseDups.mp needed
      simpa [Node.values] using same
  have read : Graph.read knotDocument = .ok knot := rfl
  have result : knot.resultId = some "a" := rfl
  have whole : knot.outline = .ok (some knotOutline) := by rfl
  rcases accounted_of_read read knot_named result with ⟨_, part, outlined, _, _, _, _, all⟩ | ⟨_, failed⟩
  · exact ⟨part, outlined, all direct⟩
  · cases whole.symm.trans failed

def gatherDocument : Json :=
  .obj
    [("a", .obj [("process_id", .str "sum"), ("result", .bool true),
        ("arguments", .obj [("data", .arr [.obj [("from_node", .str "b")]])])]),
      ("b", .obj [("process_id", .str "pi"), ("arguments", .obj [])])]

def gather : Graph where
  nodes :=
    [("a", ⟨"a", .str "sum", [("data", .tuple [.nodeRef "b"])], .null, true⟩),
      ("b", ⟨"b", .str "pi", [], .null, false⟩)]
  resultId := some "a"
  parameters := []

theorem gather_named : gather.Named := by decide

theorem gather_not_accounted : Graph.read gatherDocument = .ok gather ∧ gather.Named ∧
    gather.resultId = some "a" ∧ ∃ part, gather.outline = .ok (some part) ∧
      "b" ∈ gather.keys ∧ "b" ∉ part.mentions.map Mention.id ∧ "b" ∉ gather.unused := by
  have needed : gather.DependsOn "a" "b" := ⟨_, rfl, by decide, rfl⟩
  have reached : "b" ∈ gather.reachableFromResult :=
    mem_reachableFrom_iff.mpr ⟨rfl, .single needed⟩
  refine ⟨rfl, gather_named, rfl, _, rfl, by decide, by decide, fun listed => ?_⟩
  exact (mem_unused_iff.mp listed).2 reached

end Graph
end FormulaGraph
