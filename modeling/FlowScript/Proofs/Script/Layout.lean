import FlowScript.Proofs.Script.Registry
import FlowScript.Proofs.Text.Lines
import FlowScript.Script.Program
import Mathlib.Data.List.DropRight

/-!
# The layout of programs

A program is put together node by node, and beside it a scope that remembers what was bound.
Each step adds the block of its node (`Draft.lines_add`), so a run adds the blocks of all
nodes in order, whatever the scope (`Draft.lines_foldl_add`).

Blocks stand between line feeds, so they can be read off the text again: the lines of a
program between its opening and its closing lines are the lines of the blocks
(`Workflow.body_eq`), and the lines of an author's code are that code, two characters
deeper (`unlines_map_dedented`).
-/

namespace FlowScript

open Text

/-! ### Blocks -/

/-- The block of a node: its header, its code, and an empty line. -/
def Registry.block (registry : Registry) (node : Node) : List String :=
  indented (headerLine node) :: (registry.emit node).lines.map indented ++ [""]

/-- The block that a node's name, type and parameters make. -/
def nodeBlock (name type : String) (parameters : Json.Members) : List String :=
  Registry.standard.block { name, type, parameters }

/-- A node's block depends on no other part of it, since its code does not
(`emit_standard_congr`). -/
theorem nodeBlock_eq (node : Node) :
    nodeBlock node.name node.type node.parameters = Registry.standard.block node := by
  have hemit : Registry.standard.emit
      { name := node.name, type := node.type, parameters := node.parameters } =
        Registry.standard.emit node := Registry.emit_standard_congr rfl rfl rfl
  rw [nodeBlock, Registry.block, hemit, Registry.block]
  rfl

/-- The header as it stands in the text: the comment mark, one level deep, and the name and the type
as they are. -/
theorem indented_headerLine (node : Node) :
    indented (headerLine node) = "  // " ++ node.name ++ " (" ++ node.type ++ ")" := by
  have hmark : "  " ++ "// " = "  // " := by decide +kernel
  simp only [indented, headerLine, ← String.append_assoc, hmark]

namespace Draft

/-- **Step.** One more node adds its block to the lines. What it adds to the scope has no part in
this. -/
theorem lines_add (registry : Registry) (draft : Draft) (node : Node) :
    (draft.add registry node).lines = draft.lines ++ registry.block node := by
  simp [add, Registry.block]

/-- **Run.** All nodes add their blocks, one after the other and in stored order. -/
theorem lines_foldl_add (registry : Registry) (draft : Draft) (nodes : List Node) :
    (nodes.foldl (Draft.add registry) draft).lines =
      draft.lines ++ nodes.flatMap registry.block := by
  induction nodes generalizing draft with
  | nil => simp
  | cons node rest ih =>
    -- the scope differs from step to step, so the induction is over all drafts
    rw [List.foldl_cons, ih, lines_add, List.flatMap_cons, List.append_assoc]

end Draft

namespace Workflow

/-- What is bound already does not show in the lines. -/
theorem lines_draft (workflow : Workflow) (registry : Registry) (scope : Scope) :
    (workflow.draft registry scope).lines =
      openingLines ++ workflow.nodes.flatMap registry.block :=
  Draft.lines_foldl_add registry _ workflow.nodes

/-- The lines of a program, with nothing left of how they are put together. -/
theorem programLines_eq (workflow : Workflow) (registry : Registry) :
    workflow.programLines registry =
      openingLines ++ workflow.nodes.flatMap registry.block ++ closingLines := by
  rw [programLines, lines_draft]

/-! ### Reading blocks off the text -/

/-- The lines of a program between its four opening and its three closing lines. -/
def body (workflow : Workflow) : List String := ((linesOf workflow.compile).drop 4).rdrop 3

/-- The lines of the text are those of the blocks, cut once more: a name or a type may have line
feeds of its own, and then its header is several lines of the text. -/
theorem linesOf_compile (workflow : Workflow) :
    linesOf workflow.compile =
      openingLines ++ (workflow.nodes.flatMap Registry.standard.block).flatMap linesOf ++
        closingLines := by
  -- a name can be of several lines, and so can a block's header; the frame's lines are single
  have hopening : openingLines.flatMap linesOf = openingLines := by decide +kernel
  have hclosing : closingLines.flatMap linesOf = closingLines := by decide +kernel
  have hne : workflow.programLines .standard ≠ [] := by
    rw [programLines_eq]
    exact List.append_ne_nil_of_right_ne_nil _ (List.cons_ne_nil _ _)
  rw [compile, compileWith, linesOf_unlines hne, programLines_eq, List.flatMap_append,
    List.flatMap_append, hopening, hclosing]

/-- The lines between the fixed ones are the lines of the blocks. The opening lines are four and the
closing lines three, whatever the workflow. -/
theorem body_eq (workflow : Workflow) :
    workflow.body = (workflow.nodes.flatMap Registry.standard.block).flatMap linesOf := by
  have hopening : openingLines.length = 4 := rfl
  have hclosing : closingLines.length = 3 := rfl
  rw [body, linesOf_compile, List.append_assoc, List.drop_left' hopening, List.rdrop,
    List.length_append, hclosing, Nat.add_sub_cancel, List.take_left]

/-- Bodies are put together as lists of nodes are, because a block does not depend on the nodes
around it. -/
theorem body_append (before behind : List Node) :
    body { nodes := before ++ behind } = body { nodes := before } ++ body { nodes := behind } := by
  simp only [body_eq, List.flatMap_append]

/-- A body is nothing but the bodies of its single nodes, in order. -/
theorem body_eq_flatMap (nodes : List Node) :
    body { nodes } = nodes.flatMap fun node => body { nodes := [node] } := by
  induction nodes with
  | nil => simp [body_eq]
  | cons node rest ih => rw [List.flatMap_cons, ← ih, ← body_append, List.singleton_append]

end Workflow

/-! ### Indentation -/

/-- A line without its first two characters. -/
def dedented (line : String) : String := String.ofList (line.toList.drop 2)

theorem dedented_indented (line : String) : dedented (indented line) = line := by
  simp [dedented, indented]

/-- **Code comes back.** Cutting code into lines, indenting them, taking the indentation off and
joining them gives the code again, with all of its line feeds, also those at the end. -/
theorem unlines_map_dedented (code : String) :
    unlines (((linesOf code).map indented).map dedented) = code := by
  have hlines : ((linesOf code).map indented).map dedented = linesOf code := by
    simp [Function.comp_def, dedented_indented]
  rw [hlines, unlines_linesOf]

/-- No line of an author's code has a line feed in it, so the lines of the block are the lines of
the text there. -/
theorem lineFeed_notMem_of_mem_indented {code line : String}
    (h : line ∈ (linesOf code).map indented) : '\n' ∉ line.toList := by
  obtain ⟨inner, hinner, rfl⟩ := List.mem_map.1 h
  have hnotMem := lineFeed_notMem_of_mem_linesOf hinner
  simpa [indented] using hnotMem

/-- A function node with code gives the lines of that code and nothing else. -/
theorem lines_emit_function {node : Node} {code : String} (hkind : node.kind? = some .function)
    (hcode : Json.Members.get? node.parameters "functionCode" = some (.str code))
    (hne : code ≠ "") : (Registry.standard.emit node).lines = linesOf code := by
  have hparameter : node.stringParameter? "functionCode" = some code := by
    simp [Node.stringParameter?, hcode, Json.Value.asString?, hne]
  rw [Registry.emit_of_kind hkind]
  simp [Kind.emitter, emitFunction, hparameter]

/-! ### Programs block by block -/

namespace Workflow

/-- The program as one text: fixed lines, blocks and fixed lines with line feeds between them. -/
theorem compile_eq_intercalate (workflow : Workflow) :
    workflow.compile = "\n".intercalate (openingLines ++
      (workflow.nodes.map fun node => nodeBlock node.name node.type node.parameters).flatten ++
        closingLines) := by
  simp only [compile, compileWith, programLines_eq, unlines_eq_intercalate, nodeBlock_eq,
    List.flatMap_def]

/-- Two workflows whose nodes agree in names, types and parameters have one program, whatever else
they differ in. -/
theorem compile_congr {workflow other : Workflow}
    (h : workflow.nodes.map (fun node => (node.name, node.type, node.parameters)) =
      other.nodes.map fun node => (node.name, node.type, node.parameters)) :
    workflow.compile = other.compile := by
  have hblocks (nodes : List Node) :
      (nodes.map fun node => nodeBlock node.name node.type node.parameters) =
        (nodes.map fun node => (node.name, node.type, node.parameters)).map
          fun parts => nodeBlock parts.1 parts.2.1 parts.2.2 := by
    rw [List.map_map]
    rfl
  rw [compile_eq_intercalate, compile_eq_intercalate, hblocks, h, ← hblocks]

/-- A program is its opening lines, a block for each node in stored order, and its closing
lines. What has been bound before does not show in it, nor does anything of a workflow
but the names, types and parameters of its nodes. Programs are put together as node lists
are, and the block of a function node gives back its author's code. -/
theorem compile_block_by_block (workflow : Workflow) :
    workflow.compile = "\n".intercalate
      (["// Auto-generated code from n8n workflow", "import axios from 'axios';", "",
          "async function main() \x7b"] ++
        (workflow.nodes.map fun node => nodeBlock node.name node.type node.parameters).flatten ++
        ["\x7d", "", "main().catch(console.error);"]) ∧
    (∀ node : Node, nodeBlock node.name node.type node.parameters =
      ["  // " ++ node.name ++ " (" ++ node.type ++ ")"] ++
        ((Registry.standard.emit node).lines.map fun line => "  " ++ line) ++ [""]) ∧
    (∀ scope, unlines ((workflow.draft .standard scope).lines ++ closingLines) =
      workflow.compile) ∧
    (∀ other : Workflow,
      (workflow.nodes.map fun node => (node.name, node.type, node.parameters)) =
        (other.nodes.map fun node => (node.name, node.type, node.parameters)) →
      workflow.compile = other.compile) ∧
    (∀ before behind, workflow.nodes = before ++ behind →
      workflow.body = body { nodes := before } ++ body { nodes := behind }) ∧
    workflow.body = (workflow.nodes.map fun node => body { nodes := [node] }).flatten ∧
    ∀ node ∈ workflow.nodes, ∀ code, node.kind? = some .function →
      Json.Members.get? node.parameters "functionCode" = some (.str code) → code ≠ "" →
      ∃ emitted, nodeBlock node.name node.type node.parameters =
          ["  // " ++ node.name ++ " (" ++ node.type ++ ")"] ++ emitted ++ [""] ∧
        (∀ line ∈ emitted, '\n' ∉ line.toList) ∧
        "\n".intercalate (emitted.map fun line => String.ofList (line.toList.drop 2)) = code := by
  have hblock (node : Node) : nodeBlock node.name node.type node.parameters =
      ["  // " ++ node.name ++ " (" ++ node.type ++ ")"] ++
        (Registry.standard.emit node).lines.map indented ++ [""] := by
    rw [nodeBlock_eq, Registry.block, indented_headerLine, List.singleton_append]
  have hbody : workflow.body = body { nodes := workflow.nodes } := by rw [body_eq, body_eq]
  refine ⟨workflow.compile_eq_intercalate, hblock, fun scope => ?_, fun _ => compile_congr,
    fun before behind h => ?_, ?_, fun node _ code hkind hcode hne => ?_⟩
  · rw [lines_draft, ← programLines_eq, compile, compileWith]
  · rw [hbody, h, body_append]
  · rw [hbody, body_eq_flatMap, List.flatMap_def]
  · rw [hblock, lines_emit_function hkind hcode hne]
    refine ⟨_, rfl, fun _ => lineFeed_notMem_of_mem_indented, ?_⟩
    rw [← unlines_eq_intercalate]
    exact unlines_map_dedented code

/-- Code with an empty line and a line feed behind its last line. -/
def tidyUp : Node where
  name := "Tidy up"
  type := "n8n-nodes-base.function"
  parameters := [("functionCode", .str "let a = 1;\n\n  return a;\n")]

/-- A request whose identifier is the one that the code's name would have. -/
def tidyUpRequest : Node where
  name := "Tidy_up"
  type := "n8n-nodes-base.httpRequest"

/-- The request, which is made twice, and the code, in an order that binds one identifier
again. -/
def tidying : Workflow where
  name := "Tidying"
  active := true
  nodes := [tidyUpRequest, { tidyUp with id := some "7", disabled := true }, tidyUpRequest]

theorem tidying_block_by_block :
    tidying.compile = compile { nodes := [tidyUpRequest, tidyUp, tidyUpRequest] } ∧
    tidying.body = body { nodes := [tidyUpRequest] } ++
      body { nodes := [{ tidyUp with id := some "7", disabled := true }, tidyUpRequest] } ∧
    ∃ emitted, nodeBlock tidyUp.name tidyUp.type tidyUp.parameters =
        ["  // " ++ tidyUp.name ++ " (" ++ tidyUp.type ++ ")"] ++ emitted ++ [""] ∧
      (∀ line ∈ emitted, '\n' ∉ line.toList) ∧
      "\n".intercalate (emitted.map fun line => String.ofList (line.toList.drop 2)) =
        "let a = 1;\n\n  return a;\n" := by
  have h := compile_block_by_block tidying
  exact ⟨h.2.2.2.1 _ rfl, h.2.2.2.2.1 [_] _ rfl,
    h.2.2.2.2.2.2 { tidyUp with id := some "7", disabled := true } (by simp [tidying]) _
      (by decide +kernel) rfl (by decide)⟩

end Workflow

end FlowScript
