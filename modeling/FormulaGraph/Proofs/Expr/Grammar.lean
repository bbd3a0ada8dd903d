import FormulaGraph.Proofs.Except
import FormulaGraph.Proofs.Expr.Induction
import FormulaGraph.Proofs.Expr.Tree
import FormulaGraph.Proofs.Number.Token
import Mathlib.Data.List.Forall2

/-!
# The grammar of trees

A tree is read just if it stands for an expression by the rules of a grammar, and then as that expression;
every expression has a tree that stands for it. What is no tree is refused for a tag that is unknown or for a
datum that is malformed, or else it has no text.
-/

namespace FormulaGraph.Expr

mutual

/-- A tree stands for an expression. Other members than those of the rule may stand in a body. -/
inductive Derives : Json → Expr → Prop where
  | number (n : Number) : Derives (.obj [("Number", .scalar (.number n))]) (.number n)
  | token {token : String} {n : Number} (read : Number.read? (Text.trim token) = some n) :
      Derives (.obj [("Number", .str token)]) (.number n)
  | identifier {body : Json} (worded : body.hasText = true) :
      Derives (.obj [("Identifier", body)]) (.identifier body.text)
  | group {body : Json} {inner : Expr} (whole : Derives body inner) :
      Derives (.obj [("Expression", body)]) (.group inner)
  | call {members : NameMap Json} {function : Json} {args : List Expr}
      (named : NameMap.get? members "name" = some function)
      (given : DerivesArgs (NameMap.get? members "args") args) :
      Derives (.obj [("FunctionCall", .obj members)]) (.call function args)
  | binary {members : NameMap Json} {operator first second : Json} {left right : Expr}
      (named : NameMap.get? members "operator" = some operator)
      (here : NameMap.get? members "left" = some first) (before : Derives first left)
      (there : NameMap.get? members "right" = some second) (after : Derives second right) :
      Derives (.obj [("Binary", .obj members)]) (.binary operator left right)
  | unary {members : NameMap Json} {operator inner : Json} {operand : Expr}
      (named : NameMap.get? members "operator" = some operator)
      (here : NameMap.get? members "expression" = some inner) (whole : Derives inner operand) :
      Derives (.obj [("Unary", .obj members)]) (.unary operator operand)

/-- The member for the arguments of a call stands for expressions: there are none without it, and none in an
empty text or object. -/
inductive DerivesArgs : Option Json → List Expr → Prop where
  | absent : DerivesArgs none []
  | text : DerivesArgs (some (.str "")) []
  | object : DerivesArgs (some (.obj [])) []
  | array {items : List Json} {args : List Expr} (each : List.Forall₂ Derives items args) :
      DerivesArgs (some (.arr items)) args

end

theorem liftMisuse_eq_ok {α : Type} {x : Except Misuse α} {a : α} : liftMisuse x = .ok a ↔ x = .ok a := by
  cases x <;> simp [liftMisuse]

theorem blame_eq_ok {datum : Json} {tag : String} {x : Except Fault Expr} {e : Expr} :
    blame datum tag x = .ok e ↔ x = .ok e := by
  unfold blame
  split <;> simp

theorem member_eq_ok {body value : Json} {name : String} : liftMisuse (body.member name) = .ok value ↔
    ∃ members, body = .obj members ∧ NameMap.get? members name = some value := by
  rw [liftMisuse_eq_ok]
  unfold Json.member
  split
  · rename_i members
    split <;> simp_all
  all_goals simp

theorem toText_eq_ok {body : Json} {text : String} :
    liftMisuse body.toText = .ok text ↔ body.hasText = true ∧ text = body.text := by
  rw [liftMisuse_eq_ok, Json.toText]
  cases body.hasText with
  | false => simp
  | true => simp [eq_comm]

/-- A datum is read by the rules of the grammar: as a tree, as a body with a tree under a name, as the body
of a call, and as its arguments. -/
structure Parsed (datum : Json) : Prop where
  tree : ∀ e, ofTree datum = .ok e ↔ Derives datum e
  part : ∀ name e, ofPart name datum = .ok e ↔
    ∃ members value, datum = .obj members ∧ NameMap.get? members name = some value ∧ Derives value e
  args : ∀ es, ofArgs datum = .ok es ↔
    ∃ members, datum = .obj members ∧ DerivesArgs (NameMap.get? members "args") es
  sequence : ∀ es, ofSequence datum = .ok es ↔ DerivesArgs (some datum) es

theorem ofItems_eq_ok {items : List Json} (each : ∀ item ∈ items, Parsed item) {es : List Expr} :
    ofItems items = .ok es ↔ List.Forall₂ Derives items es := by
  induction items generalizing es with
  | nil =>
    rw [List.forall₂_nil_left_iff]
    exact ⟨fun h => (Except.ok.inj h).symm, fun h => h ▸ rfl⟩
  | cons item rest ih =>
    have first := (each item List.mem_cons_self).tree
    have later (others : List Expr) : ofItems rest = .ok others ↔ List.Forall₂ Derives rest others :=
      ih fun other member => each other (List.mem_cons_of_mem item member)
    rw [ofItems, List.forall₂_cons_left_iff]
    refine (cons_eq_ok (f := id)).trans ?_
    simp only [first, later, id]

theorem derivesArgs_none_iff {es : List Expr} : DerivesArgs none es ↔ es = [] := by
  constructor
  · intro given
    cases given with
    | absent => rfl
  · rintro rfl
    exact .absent

theorem derivesArgs_array_iff {items : List Json} {es : List Expr} :
    DerivesArgs (some (.arr items)) es ↔ List.Forall₂ Derives items es := by
  constructor
  · intro given
    cases given with
    | array each => exact each
  · exact .array

/-! ### From the reader to the grammar -/

section Single

variable {tag : String} {body : Json} {e : Expr}

theorem derives_of_call (inside : Parsed body) (read : (do
    let function ← liftMisuse (body.member "name")
    let args ← ofArgs body
    return Expr.call function args) = .ok e) : Derives (.obj [("FunctionCall", body)]) e := by
  obtain ⟨function, first, read⟩ := bind_eq_ok.mp read
  obtain ⟨args, second, read⟩ := bind_eq_ok.mp read
  cases read
  obtain ⟨members, rfl, named⟩ := member_eq_ok.mp first
  obtain ⟨_, same, given⟩ := (inside.args _).mp second
  cases same
  exact .call named given

theorem derives_of_binary (inside : Parsed body) (read : (do
    let operator ← liftMisuse (body.member "operator")
    let left ← ofPart "left" body
    let right ← ofPart "right" body
    return Expr.binary operator left right) = .ok e) : Derives (.obj [("Binary", body)]) e := by
  obtain ⟨operator, first, read⟩ := bind_eq_ok.mp read
  obtain ⟨left, second, read⟩ := bind_eq_ok.mp read
  obtain ⟨right, third, read⟩ := bind_eq_ok.mp read
  cases read
  obtain ⟨members, rfl, named⟩ := member_eq_ok.mp first
  obtain ⟨_, _, same, here, before⟩ := (inside.part _ _).mp second
  cases same
  obtain ⟨_, _, same, there, after⟩ := (inside.part _ _).mp third
  cases same
  exact .binary named here before there after

theorem derives_of_unary (inside : Parsed body) (read : (do
    let operator ← liftMisuse (body.member "operator")
    let operand ← ofPart "expression" body
    return Expr.unary operator operand) = .ok e) : Derives (.obj [("Unary", body)]) e := by
  obtain ⟨operator, first, read⟩ := bind_eq_ok.mp read
  obtain ⟨operand, second, read⟩ := bind_eq_ok.mp read
  cases read
  obtain ⟨members, rfl, named⟩ := member_eq_ok.mp first
  obtain ⟨_, _, same, here, whole⟩ := (inside.part _ _).mp second
  cases same
  exact .unary named here whole

theorem derives_of_ofTree (inside : Parsed body) (read : ofTree (.obj [(tag, body)]) = .ok e) :
    Derives (.obj [(tag, body)]) e := by
  rw [ofTree, blame_eq_ok] at read
  -- one case for each tag
  split at read
  · rename_i number
    subst number
    obtain ⟨n, inner, rfl⟩ := map_eq_ok.mp read
    rcases Number.ofJson_eq_ok.mp (liftMisuse_eq_ok.mp inner) with rfl | ⟨token, rfl, written⟩
    · exact .number n
    · exact .token written
  split at read
  · rename_i identifier
    subst identifier
    obtain ⟨_, inner, rfl⟩ := map_eq_ok.mp read
    obtain ⟨worded, rfl⟩ := toText_eq_ok.mp inner
    exact .identifier worded
  split at read
  · rename_i group
    subst group
    obtain ⟨e, inner, rfl⟩ := map_eq_ok.mp read
    exact .group ((inside.tree e).mp inner)
  split at read
  · rename_i call
    subst call
    exact derives_of_call inside read
  split at read
  · rename_i binary
    subst binary
    exact derives_of_binary inside read
  split at read
  · rename_i unary
    subst unary
    exact derives_of_unary inside read
  · cases read

end Single

/-! ### From the grammar to the reader -/

theorem ofTree_of_derives {members : NameMap Json} {e : Expr}
    (inside : ∀ member ∈ members, Parsed member.2) (derives : Derives (.obj members) e) :
    ofTree (.obj members) = .ok e := by
  cases derives with
  | number n => rfl
  | token read =>
    have number := Number.ofJson_eq_ok.mpr (Or.inr ⟨_, rfl, read⟩)
    rw [ofTree, blame_eq_ok, if_pos rfl, number]
    rfl
  | identifier worded =>
    have inner := toText_eq_ok.mpr ⟨worded, rfl⟩
    rw [ofTree, blame_eq_ok, if_neg (by decide), if_pos rfl, inner]
    rfl
  | group whole =>
    have inner := ((inside _ List.mem_cons_self).tree _).mpr whole
    rw [ofTree, blame_eq_ok, if_neg (by decide), if_neg (by decide), if_pos rfl, inner]
    rfl
  | @call inner function args named given =>
    have body := inside _ List.mem_cons_self
    have first := member_eq_ok.mpr ⟨inner, rfl, named⟩
    have second := (body.args args).mpr ⟨inner, rfl, given⟩
    rw [ofTree, blame_eq_ok, if_neg (by decide), if_neg (by decide), if_neg (by decide), if_pos rfl]
    exact bind_eq_ok.mpr ⟨_, first, bind_eq_ok.mpr ⟨_, second, rfl⟩⟩
  | @binary inner operator _ _ left right named here before there after =>
    have body := inside _ List.mem_cons_self
    have first := member_eq_ok.mpr ⟨inner, rfl, named⟩
    have second := (body.part "left" left).mpr ⟨inner, _, rfl, here, before⟩
    have third := (body.part "right" right).mpr ⟨inner, _, rfl, there, after⟩
    rw [ofTree, blame_eq_ok, if_neg (by decide), if_neg (by decide), if_neg (by decide), if_neg (by decide),
      if_pos rfl]
    exact bind_eq_ok.mpr ⟨_, first, bind_eq_ok.mpr ⟨_, second, bind_eq_ok.mpr ⟨_, third, rfl⟩⟩⟩
  | @unary inner operator _ operand named here whole =>
    have body := inside _ List.mem_cons_self
    have first := member_eq_ok.mpr ⟨inner, rfl, named⟩
    have second := (body.part "expression" operand).mpr ⟨inner, _, rfl, here, whole⟩
    rw [ofTree, blame_eq_ok, if_neg (by decide), if_neg (by decide), if_neg (by decide), if_neg (by decide),
      if_neg (by decide), if_pos rfl]
    exact bind_eq_ok.mpr ⟨_, first, bind_eq_ok.mpr ⟨_, second, rfl⟩⟩

theorem ofSequence_scalar_eq_ok {s : Scalar} {es : List Expr} :
    ofSequence (.scalar s) = .ok es ↔ DerivesArgs (some (.scalar s)) es := by
  constructor
  · intro read
    cases s with
    | str text =>
      rw [ofSequence] at read
      split at read
      · rename_i empty
        rw [String.toList_eq_nil_iff] at empty
        cases read
        exact empty ▸ .text
      · cases read
    | null | bool b | number n => cases read
  · intro given
    cases given with
    | text => rfl

theorem ofSequence_obj_eq_ok {members : NameMap Json} {es : List Expr} :
    ofSequence (.obj members) = .ok es ↔ DerivesArgs (some (.obj members)) es := by
  constructor
  · intro read
    match members with
    | [] =>
      cases read
      exact .object
    | _ :: _ => cases read
  · intro given
    cases given with
    | object => rfl

theorem parsed (datum : Json) : Parsed datum := by
  induction datum using Json.induct with
  | scalar s =>
    constructor
    case tree => exact fun e => ⟨nofun, nofun⟩
    case part =>
      intro name e
      cases s with
      | str | null | bool | number => exact ⟨nofun, nofun⟩
    case args => exact fun es => ⟨nofun, nofun⟩
    case sequence => exact fun es => ofSequence_scalar_eq_ok
  | arr items ih =>
    constructor
    case tree => exact fun e => ⟨nofun, nofun⟩
    case part => exact fun name e => ⟨nofun, nofun⟩
    case args => exact fun es => ⟨nofun, nofun⟩
    case sequence => exact fun es => (ofItems_eq_ok ih).trans derivesArgs_array_iff.symm
  | obj members ih =>
    constructor
    case tree =>
      intro e
      constructor
      · intro read
        match members with
        | [] => cases read
        | [(tag, body)] => exact derives_of_ofTree (ih _ List.mem_cons_self) read
        | _ :: _ :: _ => cases read
      · exact ofTree_of_derives ih
    case part =>
      intro name e
      rw [ofPart, ofMember_eq]
      cases found : NameMap.get? members name with
      | none => simp [found]
      | some value => simp [found, (ih _ (NameMap.mem_of_get? found)).tree e]
    case args =>
      intro es
      rw [ofArgs, ofArgsMember_eq]
      cases found : NameMap.get? members "args" with
      | none => simp [found, derivesArgs_none_iff, eq_comm]
      | some value => simp [found, (ih _ (NameMap.mem_of_get? found)).sequence es]
    case sequence => exact fun es => ofSequence_obj_eq_ok

/-! ### Trees that are written -/

mutual

def toTree : Expr → Json
  | .number n => .obj [("Number", .scalar (.number n))]
  | .identifier name => .obj [("Identifier", .str name)]
  | .group inner => .obj [("Expression", toTree inner)]
  | .call function args => .obj [("FunctionCall", .obj [("name", function), ("args", .arr (toTrees args))])]
  | .binary operator left right =>
    .obj [("Binary", .obj [("operator", operator), ("left", toTree left), ("right", toTree right)])]
  | .unary operator operand => .obj [("Unary", .obj [("operator", operator), ("expression", toTree operand)])]

def toTrees : List Expr → List Json
  | [] => []
  | e :: rest => toTree e :: toTrees rest

end

theorem derives_toTrees {es : List Expr} (each : ∀ e ∈ es, Derives (toTree e) e) :
    List.Forall₂ Derives (toTrees es) es := by
  induction es with
  | nil => exact .nil
  | cons e rest ih =>
    exact .cons (each e List.mem_cons_self) (ih fun other member => each other (List.mem_cons_of_mem e member))

theorem derives_toTree (e : Expr) : Derives e.toTree e := by
  induction e using Expr.induct with
  | number n => exact .number n
  | identifier name =>
    have worded : (Json.str name).hasText = true := rfl
    exact .identifier worded
  | group inner whole => exact .group whole
  | call function args each => exact .call rfl (.array (derives_toTrees each))
  | binary operator left right before after => exact .binary rfl rfl before rfl after
  | unary operator operand whole => exact .unary rfl rfl whole

/-- A datum is read as an expression just if it is a tree that stands for it. Each datum is such a tree, or it
is refused for a tag that is unknown or as malformed, and in no other way unless it has no text. Every expression
is read from the tree that is written for it. -/
theorem ofTree_grammar :
    (∀ datum e, ofTree datum = .ok e ↔ Derives datum e) ∧
    (∀ datum, (∃ e, Derives datum e) ∨ (∃ cause, ofTree datum = .error (.formula cause) ∧ cause.OfTree) ∨
      datum.hasText = false ∧ ofTree datum = .error (.misuse .hugeInteger)) ∧
    ∀ e : Expr, ofTree e.toTree = .ok e := by
  refine ⟨fun datum => (parsed datum).tree, fun datum => ?_, fun e => ?_⟩
  · cases read : ofTree datum with
    | ok e => exact Or.inl ⟨e, ((parsed datum).tree e).mp read⟩
    | error fault =>
      rcases (blames datum).refused fault read with ⟨cause, rfl, refused⟩ | ⟨rfl, wordless⟩
      · exact Or.inr (Or.inl ⟨cause, rfl, refused⟩)
      · exact Or.inr (Or.inr ⟨wordless, rfl⟩)
  · exact ((parsed _).tree e).mpr (derives_toTree e)

end FormulaGraph.Expr
