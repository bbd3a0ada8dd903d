import FormulaGraph.Proofs.Graph.Outline

/-!
# Reports on graphs

The labels of a report are sentences: what they take from the graph is escaped and stands between tags of
a known style, or at the end. A `Lawful` console prints every sentence. On such a console the report on a graph
that was read ends well if its outline can be drawn and the list of the other nodes is printed, whose ids are not
escaped.
-/

namespace FormulaGraph

namespace Console

def styleNames : List String := ["bold", "cyan", "dim", "magenta", "yellow"]

def styled (style inner rest : String) : String := "[" ++ style ++ "]" ++ inner ++ "[/" ++ style ++ "]" ++ rest

/-- A text in which no tag begins, nor ends, nor is escaped. -/
def Plain (text : String) : Prop := '[' ∉ text.toList ∧ ']' ∉ text.toList ∧ '\\' ∉ text.toList

instance (text : String) : Decidable (Plain text) :=
  inferInstanceAs (Decidable (_ ∧ _ ∧ _))

/-- A text to be put between tags. An escaped text in it may have brackets, and no other is next to it. -/
inductive Inner (c : Console) : String → Prop where
  | plain {text : String} (clean : Plain text) : Inner c text
  | escaped {before after : String} (text : String) (left : Plain before) (right : Plain after) :
      Inner c (before ++ c.escape text ++ after)

/-- Markup whose tags are in pairs. What is not escaped at its end has no bracket that opens. -/
inductive Sentence (c : Console) : String → Prop where
  | open {text : String} (untagged : '[' ∉ text.toList) : Sentence c text
  | escaped (text : String) : Sentence c (c.escape text)
  | plain {text rest : String} (clean : Plain text) (later : Sentence c rest) : Sentence c (text ++ rest)
  | styled {style inner rest : String} (known : style ∈ styleNames) (inside : Inner c inner)
      (later : Sentence c rest) : Sentence c (styled style inner rest)

end Console

/-- All labels of a tree have a property. -/
inductive LabelTree.Each (P : String → Prop) : LabelTree → Prop where
  | node {label : String} {below : List LabelTree} (here : P label) (each : ∀ tree ∈ below, Each P tree) :
      Each P (.node label below)

/-- A console that prints all sentences, alone and as labels. -/
structure Console.Lawful (c : Console) : Prop where
  print : ∀ text, c.Sentence text → ∃ out, c.print text = .ok out
  printTree : ∀ tree, LabelTree.Each c.Sentence tree → ∃ out, c.printTree tree = .ok out

open Console

variable {c : Console} {g : Graph} {rest : String}

theorem Console.sentence_empty : c.Sentence "" := .open (by decide)

/-! ### The labels of a report -/

theorem sentence_nodeLabel (id operation : String) (later : c.Sentence rest) :
    c.Sentence (nodeLabel c id operation ++ rest) := by
  have written : nodeLabel c id operation ++ rest =
      styled "cyan" ("" ++ c.escape id ++ "") (" " ++ styled "dim" ("(" ++ c.escape operation ++ ")") rest) := by
    rw [← String.toList_inj]
    simp [nodeLabel, styled]
  rw [written]
  refine .styled (by decide) (.escaped id (by decide) (by decide)) (.plain (by decide) ?_)
  exact .styled (by decide) (.escaped operation (by decide) (by decide)) later

theorem sentence_argumentLabel (name : String) (later : c.Sentence rest) :
    c.Sentence (argumentLabel c name ++ rest) := by
  have written : argumentLabel c name ++ rest = styled "yellow" ("" ++ c.escape name ++ "") rest := by
    rw [← String.toList_inj]
    simp [argumentLabel, styled]
  rw [written]
  exact .styled (by decide) (.escaped name (by decide) (by decide)) later

theorem plain_intText (n : Nat) {before after : String} (left : Plain before) (right : Plain after) :
    Plain (before ++ Number.intText n ++ after) := by
  have digits (other : Char) (none : other.isDigit = false) : other ∉ (Number.intText n).toList := by
    intro member
    have digit : other ∈ Nat.toDigits 10 n := by simpa [Number.intText] using member
    rw [Nat.isDigit_of_mem_toDigits (by decide) (by decide) digit] at none
    cases none
  unfold Plain at left right ⊢
  simp only [String.toList_append, List.mem_append]
  have opening := digits '[' (by decide)
  have closing := digits ']' (by decide)
  have slash := digits '\\' (by decide)
  tauto

theorem ShownArgument.sentence_label (argument : ShownArgument) : c.Sentence (argument.label c) := by
  cases argument with
  | node id =>
    have written : label c (.node id) = styled "bold" ("#" ++ c.escape id ++ "") "" := by
      unfold label
      rw [← String.toList_inj]
      simp [styled]
    rw [written]
    exact .styled (by decide) (.escaped id (by decide) (by decide)) sentence_empty
  | callback size =>
    have written : label c (.callback size) =
        styled "magenta" ("<callback: " ++ Number.intText size ++ " nodes>") "" := by
      unfold label
      rw [← String.toList_inj]
      simp [styled]
    rw [written]
    exact .styled (by decide) (.plain (plain_intText size (by decide) (by decide))) sentence_empty
  | written document => exact .escaped document.literal

namespace Outline

mutual

theorem sentences_labels : (part : Outline) → LabelTree.Each c.Sentence (part.labels c)
  | .node id operation arguments => by
    have label := sentence_nodeLabel id operation (sentence_empty (c := c))
    rw [String.append_empty] at label
    exact .node label (sentences_labelsAll arguments)
  | .again id operation => by
    have dots : c.Sentence (" " ++ styled "dim" "..." "") :=
      .plain (by decide) (.styled (by decide) (.plain (by decide)) sentence_empty)
    exact .node (sentence_nodeLabel id operation dots) (by simp)
  | .link name target => by
    have label := sentence_argumentLabel name (sentence_empty (c := c))
    rw [String.append_empty] at label
    exact .node label (List.forall_mem_singleton.mpr (sentences_labels target))
  | .leaf name argument => by
    have value : c.Sentence (" = " ++ argument.label c) := .plain (by decide) argument.sentence_label
    have label := sentence_argumentLabel name value
    rw [← String.append_assoc] at label
    exact .node label (by simp)

theorem sentences_labelsAll : (parts : List Outline) →
    ∀ tree ∈ labelsAll c parts, LabelTree.Each c.Sentence tree
  | [] => by simp [labelsAll]
  | part :: rest => by
    rw [labelsAll]
    exact List.forall_mem_cons.mpr ⟨sentences_labels part, sentences_labelsAll rest⟩

end

end Outline

/-! ### Reports -/

namespace Output

theorem fault_append (first second : Output) : (first ++ second).fault = first.fault.or second.fault := by
  change (append first second).fault = _
  unfold append
  cases stopped : first.fault with
  | none => rfl
  | some cause => exact stopped

theorem ofPrinted_fault {printed : Except Fault String} (done : ∃ out, printed = .ok out) :
    (ofPrinted printed).fault = .none := by
  obtain ⟨out, rfl⟩ := done
  rfl

end Output

namespace Graph

variable {key : String} {document : Json}

theorem outlineOutput_fault (lawful : c.Lawful) (part : Outline) : (outlineOutput c part).fault = none := by
  have heading : c.Sentence (styled "bold" "Process graph" "") :=
    .styled (by decide) (.plain (by decide)) sentence_empty
  refine Output.ofPrinted_fault (lawful.printTree _ (.node heading ?_))
  exact List.forall_mem_singleton.mpr part.sentences_labels

theorem not_mem_intercalate {ids : List String} (untagged : ∀ id ∈ ids, '[' ∉ id.toList) :
    '[' ∉ (", ".intercalate ids).toList := by
  induction ids with
  | nil => decide
  | cons id rest ih =>
    have first : '[' ∉ id.toList := untagged id List.mem_cons_self
    have later := ih fun other member => untagged other (List.mem_cons_of_mem _ member)
    cases rest with
    | nil => simpa using first
    | cons other more =>
      rw [String.intercalate_cons_cons, String.toList_append, String.toList_append]
      simp only [List.mem_append, not_or]
      exact ⟨⟨first, by decide⟩, later⟩

theorem unusedOutput_fault (lawful : c.Lawful) (untagged : ∀ id ∈ g.unused, '[' ∉ id.toList) :
    (g.unusedOutput c).fault = none := by
  unfold unusedOutput
  split
  · rfl
  · have ids : c.Sentence (" " ++ ", ".intercalate g.unused) :=
      .plain (by decide) (.open (not_mem_intercalate untagged))
    have list : c.Sentence (styled "yellow" "Nodes not contributing to the result:" _) :=
      .styled (by decide) (.plain (by decide)) ids
    have written : styled "yellow" "Nodes not contributing to the result:" (" " ++ ", ".intercalate g.unused) =
        "[yellow]Nodes not contributing to the result:[/yellow] " ++ ", ".intercalate g.unused := by
      rw [← String.toList_inj]
      simp [styled]
    rw [written] at list
    exact Output.ofPrinted_fault (lawful.print _ list)

theorem totalOutput_fault (lawful : c.Lawful) : (g.totalOutput c).fault = none := by
  have number : Plain ("Total: " ++ Number.intText g.size ++ " nodes") :=
    plain_intText g.size (by decide) (by decide)
  have total : c.Sentence ("\n" ++ styled "dim" ("Total: " ++ Number.intText g.size ++ " nodes") "") :=
    .plain (by decide) (.styled (by decide) (.plain number) sentence_empty)
  have written : "\n" ++ styled "dim" ("Total: " ++ Number.intText g.size ++ " nodes") "" =
      "\n[dim]Total: " ++ Number.intText g.size ++ " nodes[/dim]" := by
    rw [← String.toList_inj]
    simp [styled]
  rw [written] at total
  exact Output.ofPrinted_fault (lawful.print _ total)

theorem reportOn_of_outline (lawful : c.Lawful) {part : Outline} (outlined : g.outline = .ok (some part)) :
    (g.reportOn c).fault = (g.unusedOutput c).fault := by
  rw [reportOn, outlined]
  dsimp only
  rw [Output.fault_append, Output.fault_append, outlineOutput_fault lawful, totalOutput_fault lawful]
  simp

theorem reportOn_of_no_result (lawful : c.Lawful) (result : g.resultId = none) : (g.reportOn c).fault = none := by
  have outlined : g.outline = .ok none := by rw [outline, result]
  have none : c.Sentence (styled "dim" "Graph has no result node" "") :=
    .styled (by decide) (.plain (by decide)) sentence_empty
  rw [reportOn, outlined]
  exact Output.ofPrinted_fault (lawful.print _ none)

/-- A report ends well if the graph has no result, or if what its result needs can be shown and the ids of the
other nodes are printed. -/
theorem Loaded.report_fault_iff (loaded : g.Loaded) (lawful : c.Lawful) :
    (g.reportOn c).fault = none ↔ ∀ key, g.resultId = some key →
      g.NamedFrom key ∧ g.ShowableFrom key ∧ (g.unusedOutput c).fault = none := by
  cases result : g.resultId with
  | none => simp [reportOn_of_no_result lawful result]
  | some key =>
    simp only [Option.some.injEq, forall_eq']
    by_cases clear : g.NamedFrom key ∧ g.ShowableFrom key
    · obtain ⟨part, _, outlined, _⟩ := loaded.exists_outline clear.1 clear.2 result
      rw [reportOn_of_outline lawful outlined]
      exact ⟨fun fine => ⟨clear.1, clear.2, fine⟩, fun given => given.2.2⟩
    · obtain ⟨_, stopped, _⟩ := loaded.outline_eq_error clear result
      rw [reportOn, stopped]
      exact ⟨nofun, fun given => absurd ⟨given.1, given.2.1⟩ clear⟩

end Graph

end FormulaGraph
