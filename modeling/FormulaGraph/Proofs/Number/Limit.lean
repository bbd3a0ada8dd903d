import FormulaGraph.Fault
import FormulaGraph.Proofs.Json.Induction
import FormulaGraph.Proofs.Number.Numeral

/-!
# What can be told in words

An integer has a text just if its digits are not too many, `hasText_int`. The reader of integers has the same
limit, so what it has read can be written again. A datum or a value has a text just if its parts have.
-/

namespace FormulaGraph

namespace Number

theorem hasText_int {n : Int} : (Number.int n).hasText = true ↔ n.natAbs < 10 ^ maxDigits := by
  rw [hasText, decide_eq_true_iff]
  exact Nat.length_toDigits_le_iff (by decide) (by decide)

theorem hasText_neg (n : Number) : n.neg.hasText = n.hasText := by
  cases n with
  | int n => rw [neg, hasText, hasText, Int.natAbs_neg]
  | float x => rfl

theorem not_hasText_limit : (Number.int (10 ^ maxDigits : Nat)).hasText = false := by
  rw [← Bool.not_eq_true, hasText_int, Int.natAbs_natCast]
  exact Nat.lt_irrefl _

variable {text : List Char} {digits : List Nat}

theorem Digits.lt_ten (run : Digits text digits) : ∀ d ∈ digits, d < 10 := by
  induction run with
  | last digit => exact List.forall_mem_singleton.mpr (Text.digitValue?_lt digit)
  | next digit _ ih | grouped digit _ ih => exact List.forall_mem_cons.mpr ⟨Text.digitValue?_lt digit, ih⟩

theorem hasText_signedValue (negative : Bool) (small : ∀ d ∈ digits, d < 10) (short : digits.length ≤ maxDigits) :
    (Number.int (signedValue negative digits)).hasText = true := by
  have bound : Nat.ofDigits 10 digits.reverse < 10 ^ digits.length := by
    have below := Nat.ofDigits_lt_base_pow_length (b := 10) (l := digits.reverse) (by decide) fun d member =>
      small d (List.mem_reverse.mp member)
    rwa [List.length_reverse] at below
  have absolute : (signedValue negative digits).natAbs = Nat.ofDigits 10 digits.reverse := by
    cases negative <;> simp [signedValue]
  rw [hasText_int, absolute]
  exact Nat.lt_of_lt_of_le bound (Nat.pow_le_pow_right (by decide) short)

theorem hasText_of_readInt {n : Int} (read : readInt text = .ok n) : (Number.int n).hasText = true := by
  obtain ⟨_, _, negative, _, digits, _, _, _, run, short, _, _, rfl⟩ := readInt_eq_ok.mp read
  exact hasText_signedValue negative run.lt_ten short

theorem hasText_of_read? {token : String} {n : Number} (read : read? token = some n) : n.hasText = true := by
  unfold read? at read
  split at read
  · rename_i m whole
    cases read
    exact hasText_of_readInt whole
  · obtain ⟨x, _, rfl⟩ := Option.map_eq_some_iff.mp read
    rfl

end Number

namespace Json

theorem haveText_eq (items : List Json) : haveText items = items.all hasText := by
  induction items with
  | nil => rfl
  | cons item rest ih => rw [haveText, ih, List.all_cons]

theorem haveText_iff {items : List Json} : haveText items = true ↔ ∀ item ∈ items, item.hasText = true := by
  rw [haveText_eq, List.all_eq_true]

theorem membersHaveText_eq (members : NameMap Json) :
    membersHaveText members = members.all fun member => member.2.hasText := by
  induction members with
  | nil => rfl
  | cons member rest ih => rw [membersHaveText, ih, List.all_cons]

theorem membersHaveText_iff {members : NameMap Json} :
    membersHaveText members = true ↔ ∀ member ∈ members, member.2.hasText = true := by
  rw [membersHaveText_eq, List.all_eq_true]

end Json

namespace Value

theorem haveText_eq (items : List Value) : haveText items = items.all hasText := by
  induction items with
  | nil => rfl
  | cons item rest ih => rw [haveText, ih, List.all_cons]

theorem haveText_iff {items : List Value} : haveText items = true ↔ ∀ item ∈ items, item.hasText = true := by
  rw [haveText_eq, List.all_eq_true]

theorem membersHaveText_eq (members : NameMap Value) :
    membersHaveText members = members.all fun member => member.2.hasText := by
  induction members with
  | nil => rfl
  | cons member rest ih => rw [membersHaveText, ih, List.all_cons]

theorem membersHaveText_iff {members : NameMap Value} :
    membersHaveText members = true ↔ ∀ member ∈ members, member.2.hasText = true := by
  rw [membersHaveText_eq, List.all_eq_true]

theorem hasText_ofJson (datum : Json) : (ofJson datum).hasText = datum.hasText := by
  induction datum using Json.induct with
  | scalar s => rfl
  | arr items ih =>
    rw [ofJson, hasText, Json.hasText]
    induction items with
    | nil => rfl
    | cons item rest later =>
      rw [ofJsonItems, haveText, Json.haveText, ih item List.mem_cons_self,
        later fun other member => ih other (List.mem_cons_of_mem item member)]
  | obj members ih =>
    rw [ofJson, hasText, Json.hasText]
    induction members with
    | nil => rfl
    | cons member rest later =>
      rw [ofJsonMembers, membersHaveText, Json.membersHaveText, ih member List.mem_cons_self,
        later fun other inside => ih other (List.mem_cons_of_mem member inside)]

end Value

theorem Graph.nodesHaveText_eq (nodes : NameMap Node) :
    nodesHaveText nodes = nodes.all fun entry => entry.2.hasText := by
  induction nodes with
  | nil => rfl
  | cons entry rest ih => rw [nodesHaveText, ih, List.all_cons]

end FormulaGraph
