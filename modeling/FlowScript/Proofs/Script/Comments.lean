import FlowScript.Proofs.Script.Layout

/-!
# Comments of the body

A node whose type has no emitter leaves two comments in the body of the program: the header
with its name and type, and a notice with its type. Both are put together from texts of any
kind, and a text with a line feed goes on in a line of its own. Only the first line of a comment
has the comment mark in front of it; what is behind it is as its author wrote it
(`forall_mem_linesOf_mark_iff`). Lines are those between line feeds (`Inert`).

So a body of such nodes does nothing exactly if the headers do nothing behind their first lines
(`Workflow.body_inert_iff`). The notices need no condition of their own: a type stands in the
header as well, and there it is followed by one more character.
-/

namespace FlowScript

open Text

/-! ### Texts with something in front or behind -/

namespace Text

/-- The parts behind the first stay, whatever is put in front. -/
theorem tail_cut_suffix (separator : Char) (a b : List Char) :
    (cut separator b).tail <:+ (cut separator (a ++ b)).tail := by
  induction a with
  | nil => exact List.suffix_rfl
  | cons c rest ih =>
    obtain ⟨part, parts, hrest⟩ :=
      List.exists_cons_of_ne_nil (cut_ne_nil separator (rest ++ b))
    rw [hrest, List.tail_cons] at ih
    rw [List.cons_append, cut, hrest]
    split
    · exact ih.trans (List.suffix_cons part parts)
    · exact ih

/-- A character that is put behind a text belongs to the last part, if it is no separator. -/
theorem exists_cut_append_singleton {separator c : Char} (hc : c ≠ separator) (cs : List Char) :
    ∃ front last, cut separator cs = front ++ [last] ∧
      cut separator (cs ++ [c]) = front ++ [last ++ [c]] := by
  induction cs with
  | nil => exact ⟨[], [], rfl, by simp [cut, hc]⟩
  | cons d rest ih =>
    obtain ⟨front, last, hcut, hmore⟩ := ih
    by_cases hd : d = separator
    · refine ⟨[] :: front, last, ?_, ?_⟩
      · rw [cut, if_pos hd, hcut, List.cons_append]
      · rw [List.cons_append, cut, if_pos hd, hmore, List.cons_append]
    · rw [List.cons_append, cut, cut, if_neg hd, if_neg hd, hcut, hmore]
      cases front with
      | nil => exact ⟨[], d :: last, rfl, rfl⟩
      | cons part parts => exact ⟨(d :: part) :: parts, last, rfl, rfl⟩

/-- Every text has a first line, be it an empty one. -/
theorem exists_linesOf_eq_cons (text : String) : ∃ first rest, linesOf text = first :: rest := by
  obtain ⟨part, parts, hcut⟩ := List.exists_cons_of_ne_nil (cut_ne_nil '\n' text.toList)
  exact ⟨String.ofList part, parts.map String.ofList, by rw [linesOf, cutLines, hcut]; rfl⟩

/-- What is put in front of a text, without a line feed, lengthens its first line and leaves the
others. -/
theorem linesOf_append_of_notMem {front text first : String} {rest : List String}
    (h : '\n' ∉ front.toList) (htext : linesOf text = first :: rest) :
    linesOf (front ++ text) = (front ++ first) :: rest := by
  obtain ⟨part, parts, hcut⟩ := List.exists_cons_of_ne_nil (cut_ne_nil '\n' text.toList)
  rw [linesOf, cutLines, hcut, List.map_cons, List.cons.injEq] at htext
  rw [linesOf, cutLines, String.toList_append, cut_append_of_notMem h hcut, List.map_cons,
    String.ofList_append, String.ofList_toList, htext.1, htext.2]

end Text

/-! ### Lines that do nothing

Lines are cut at line feeds. A line comment ends at a carriage return and at the separators U+2028
and U+2029 as well, and what stands behind one of those in a line is not looked at here. -/

/-- A line, as line feeds cut it, that does nothing: it is empty or begins with the comment mark. -/
def Inert (line : String) : Prop := line = "" ∨ "  //".toList <+: line.toList

instance : DecidablePred Inert := fun _ => inferInstanceAs (Decidable (_ ∨ _))

theorem inert_empty : Inert "" := .inl rfl

/-- Behind the comment mark anything may stand, up to the end of the line. -/
theorem inert_mark_append (text : String) : Inert ("  //" ++ text) := by
  right
  rw [String.toList_append]
  exact List.prefix_append _ _

/-- A line that does nothing with a parenthesis behind it does nothing without. -/
theorem inert_of_inert_append {line : List Char} (h : Inert (String.ofList (line ++ [')']))) :
    Inert (String.ofList line) := by
  rcases h with hempty | hmark
  · simp [← String.toList_inj] at hempty
  · rw [String.toList_ofList (l := line ++ [')']), List.prefix_concat_iff] at hmark
    rcases hmark with hwhole | hmark
    · have hlast := congrArg List.getLast? hwhole
      simp at hlast
    · right
      rwa [String.toList_ofList (l := line)]

/-- Behind a comment mark, a text does nothing exactly if its lines behind the first do
nothing. -/
theorem forall_mem_linesOf_mark_iff (text : String) :
    (∀ line ∈ linesOf ("  //" ++ text), Inert line) ↔
      ∀ line ∈ (linesOf text).tail, Inert line := by
  obtain ⟨first, rest, htext⟩ := exists_linesOf_eq_cons text
  rw [linesOf_append_of_notMem (by decide) htext, htext, List.forall_mem_cons, List.tail_cons]
  exact and_iff_right (inert_mark_append _)

/-- A text that does nothing behind its first line, between anything and a parenthesis, does
nothing there by itself. -/
theorem inert_tail_linesOf {front text : String}
    (h : ∀ line ∈ (linesOf (front ++ (text ++ ")"))).tail, Inert line) :
    ∀ line ∈ (linesOf text).tail, Inert line := by
  intro line hline
  obtain ⟨parts, last, hcut, hmore⟩ :=
    exists_cut_append_singleton (show ')' ≠ '\n' by decide) text.toList
  have hsuffix := tail_cut_suffix '\n' front.toList (text.toList ++ [')'])
  have hquiet : ∀ part ∈ (parts ++ [last ++ [')']]).tail, Inert (String.ofList part) := by
    intro part hpart
    apply h
    rw [linesOf, cutLines, String.toList_append, String.toList_append, ← List.map_tail]
    rw [hmore] at hsuffix
    exact List.mem_map_of_mem (hsuffix.subset hpart)
  rw [linesOf, cutLines, hcut, ← List.map_tail] at hline
  obtain ⟨part, hpart, rfl⟩ := List.mem_map.1 hline
  cases parts with
  | nil => cases hpart
  | cons first rest =>
    rw [List.cons_append, List.tail_cons] at hquiet hpart
    rcases List.mem_append.1 hpart with hpart | hpart
    · exact hquiet part (List.mem_append_left _ hpart)
    · rw [List.mem_singleton.1 hpart]
      exact inert_of_inert_append (hquiet _ (List.mem_append_right _ List.mem_cons_self))

/-! ### Nodes without an emitter -/

namespace Workflow

/-- What the header of a node says behind its comment mark. -/
def headerText (node : Node) : String := " " ++ node.name ++ " (" ++ (node.type ++ ")")

theorem headerLine_eq (node : Node) : headerLine node = "//" ++ headerText node := by
  have hmark : "//" ++ " " = "// " := by decide +kernel
  simp only [headerLine, headerText, ← String.append_assoc, hmark]

/-- The comment mark is in the first line, so the further lines of a header are those of what it
says. -/
theorem tail_linesOf_headerLine (node : Node) :
    (linesOf (headerLine node)).tail = (linesOf (headerText node)).tail := by
  obtain ⟨first, rest, htext⟩ := exists_linesOf_eq_cons (headerText node)
  rw [headerLine_eq, linesOf_append_of_notMem (by decide) htext, htext]
  rfl

/-- The block of a node without an emitter: two comments with texts of the workflow's author in
them, and an empty line. -/
theorem block_of_unhandled {node : Node} (h : Registry.standard.handles node.type = false) :
    Registry.standard.block node =
      ["  //" ++ headerText node, "  //" ++ (" unhandled node type: " ++ node.type), ""] := by
  have hnone : Registry.standard.resolve? node.type = none := by
    simpa [Registry.handles] using h
  have hemit : Registry.standard.emit node = emitUnhandled node := by
    rw [Registry.emit, hnone]
  have hmark : "  " ++ "//" = "  //" := by decide +kernel
  have hnotice : "// unhandled node type: " = "//" ++ " unhandled node type: " := by
    decide +kernel
  simp only [Registry.block, hemit, emitUnhandled, indented, headerLine_eq, hnotice, List.map_cons,
    List.map_nil, ← String.append_assoc, hmark, List.cons_append, List.nil_append]

/-- The header and the notice of a node do nothing exactly if the header does nothing behind its
first line. -/
theorem forall_mem_block_iff {node : Node} (h : Registry.standard.handles node.type = false) :
    (∀ line ∈ (Registry.standard.block node).flatMap linesOf, Inert line) ↔
      ∀ line ∈ (linesOf (headerLine node)).tail, Inert line := by
  have hempty : linesOf "" = [""] := rfl
  rw [block_of_unhandled h, tail_linesOf_headerLine]
  simp only [List.flatMap_cons, List.flatMap_nil, List.append_nil, List.forall_mem_append,
    forall_mem_linesOf_mark_iff, hempty, List.forall_mem_singleton]
  constructor
  · intro hquiet
    exact hquiet.1
  · intro hheader
    -- the notice has the lines of the type, which the header has too
    refine ⟨hheader, ?_, inert_empty⟩
    obtain ⟨first, rest, htype⟩ := exists_linesOf_eq_cons node.type
    have htail := inert_tail_linesOf hheader
    rw [htype] at htail
    rwa [linesOf_append_of_notMem (by decide) htype]

/-- The body of a program of nodes without an emitter does nothing exactly if no header goes on
behind its first line with something that does. -/
theorem body_inert_iff {workflow : Workflow}
    (h : ∀ node ∈ workflow.nodes, Registry.standard.handles node.type = false) :
    (∀ line ∈ workflow.body, Inert line) ↔
      ∀ node ∈ workflow.nodes, ∀ line ∈ (linesOf (headerLine node)).tail, Inert line := by
  rw [body_eq, List.flatMap_assoc, List.forall_mem_flatMap]
  exact forall₂_congr fun node hnode => forall_mem_block_iff (h node hnode)

/-- Without a line feed in name and type the header is one line. -/
theorem tail_linesOf_headerLine_eq_nil {node : Node} (hname : '\n' ∉ node.name.toList)
    (htype : '\n' ∉ node.type.toList) : (linesOf (headerLine node)).tail = [] := by
  have hheader : '\n' ∉ (headerLine node).toList := by
    simp [headerLine, hname, htype]
  have hline := linesOf_append_of_notMem hheader (show linesOf "" = ["" ] from rfl)
  rw [String.append_empty] at hline
  rw [hline]
  rfl

/-- **Comments stay comments** as long as they stay in their lines: if no node has an emitter, the
body of the program does nothing exactly if every further line of a header is empty or a comment
by itself. So it is where names and types have no line feed. -/
theorem unhandled_nodes_leave_comments (workflow : Workflow)
    (h : ∀ node ∈ workflow.nodes, Registry.standard.handles node.type = false) :
    ((∀ line ∈ workflow.body, Inert line) ↔
      ∀ node ∈ workflow.nodes,
        ∀ line ∈ (linesOf ("// " ++ node.name ++ " (" ++ node.type ++ ")")).tail, Inert line) ∧
    ((∀ node ∈ workflow.nodes, '\n' ∉ node.name.toList ∧ '\n' ∉ node.type.toList) →
      ∀ line ∈ workflow.body, Inert line) := by
  refine ⟨body_inert_iff h, fun hplain => (body_inert_iff h).2 fun node hnode => ?_⟩
  rw [tail_linesOf_headerLine_eq_nil (hplain node hnode).1 (hplain node hnode).2]
  exact List.forall_mem_nil _

/-- Two nodes without an emitter, of which one has a name that goes on as a comment. -/
def waiting : Workflow where
  nodes := [{ name := "Wait\n  // for the others", type := "n8n-nodes-base.wait" },
    { name := "Note (1)", type := "n8n-nodes-base.stickyNote" }]

/-- A name of two lines does no harm if the second is a comment, too. -/
theorem waiting_leaves_comments :
    (∀ node ∈ waiting.nodes, Registry.standard.handles node.type = false) ∧
      ∀ line ∈ waiting.body, Inert line := by
  have hunhandled : ∀ node ∈ waiting.nodes, Registry.standard.handles node.type = false := by
    decide +kernel
  exact ⟨hunhandled, (unhandled_nodes_leave_comments waiting hunhandled).1.2 (by decide +kernel)⟩

/-- A node without an emitter whose name goes on as a statement. -/
def breakingOut : Workflow where
  nodes := [{ name := "Stop\nprocess.exit(1);", type := "n8n-nodes-base.noOp" }]

/-- Without a condition on names, a header can bring a statement into the program. -/
theorem breakingOut_leaves_statement :
    breakingOut.body = ["  // Stop", "process.exit(1); (n8n-nodes-base.noOp)",
      "  // unhandled node type: n8n-nodes-base.noOp", ""] ∧
    ¬ ∀ workflow : Workflow,
      (∀ node ∈ workflow.nodes, Registry.standard.handles node.type = false) →
        ∀ line ∈ workflow.body, Inert line := by
  have hbody : breakingOut.body = ["  // Stop", "process.exit(1); (n8n-nodes-base.noOp)",
      "  // unhandled node type: n8n-nodes-base.noOp", ""] := by
    rw [body_eq]
    decide +kernel
  refine ⟨hbody, fun hall => ?_⟩
  have hinert := hall breakingOut (by decide +kernel) "process.exit(1); (n8n-nodes-base.noOp)"
    (by rw [hbody]; decide)
  exact absurd hinert (by decide)

end Workflow

end FlowScript
