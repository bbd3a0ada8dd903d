import FormulaGraph.Json.Basic

/-!
# Induction on data

`Json.induct` has the items of an array and the members of an object at hand.
-/

namespace FormulaGraph

theorem Json.sizeOf_item_lt {items : List Json} {item : Json} (member : item ∈ items) :
    sizeOf item < sizeOf (Json.arr items) := by
  have small := List.sizeOf_lt_of_mem member
  simp only [Json.arr.sizeOf_spec]
  omega

theorem Json.sizeOf_member_lt {members : List (String × Json)} {name : String} {content : Json}
    (member : (name, content) ∈ members) : sizeOf content < sizeOf (Json.obj members) := by
  have small := List.sizeOf_lt_of_mem member
  simp only [Json.obj.sizeOf_spec, Prod.mk.sizeOf_spec] at small ⊢
  omega

/-- What holds of a datum as soon as it holds of its parts holds of every datum. -/
theorem Json.induct {P : Json → Prop} (scalar : ∀ s, P (.scalar s))
    (arr : ∀ items, (∀ item ∈ items, P item) → P (.arr items))
    (obj : ∀ members, (∀ member ∈ members, P member.2) → P (.obj members)) (datum : Json) : P datum := by
  have again (part : Json) (_ : sizeOf part < sizeOf datum) : P part := Json.induct scalar arr obj part
  match datum with
  | .scalar s => exact scalar s
  | .arr items => exact arr items fun item member => again item (Json.sizeOf_item_lt member)
  | .obj members => exact obj members fun _ member => again _ (Json.sizeOf_member_lt member)
termination_by sizeOf datum

end FormulaGraph
