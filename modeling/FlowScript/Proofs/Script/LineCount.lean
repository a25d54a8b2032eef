import FlowScript.Proofs.Script.Constants
import Mathlib.Algebra.GroupWithZero.Nat

/-!
# How many lines a program has

A text has one line more than it has line feeds (`length_linesOf`), so the lines of a program can
be counted through its line feeds, node by node. What a node brings is the line feeds of its name
and its type, and those of its code (`codeFeeds`):

* a request has those of its method and its address, which are written as they are;
* a set node has one for each entry that has a name. Names become identifiers and values become
  JSON text, and neither has any;
* an author's code has all of its own;
* a node without an emitter has those of its type, which is in the notice.

So a program with as many line feeds in these places has as many lines, block by block
(`Workflow.line_feeds_add_up`).
-/

namespace FlowScript

open Json Text

/-! ### Line feeds -/

/-- The number of line feeds in a text. -/
def lineFeeds (s : String) : Nat := s.toList.count '\n'

/-- A text has one line more than it has line feeds. -/
theorem length_linesOf (s : String) : (linesOf s).length = lineFeeds s + 1 := by
  rw [linesOf, List.length_map, cutLines, length_cut, lineFeeds]

theorem lineFeeds_indented (line : String) : lineFeeds (indented line) = lineFeeds line := by
  simp [indented, lineFeeds]

/-- Whatever a name is, its identifier stays in its line. -/
theorem lineFeeds_identifierOf (name : String) : lineFeeds (identifierOf name) = 0 :=
  List.count_eq_zero.2 (visible_identifierOf name).lineFeed_notMem

/-! ### The line feeds of a node -/

/-- The code of a function node, if it is a string and not empty. -/
def Node.authorCode? (node : Node) : Option String :=
  match Members.get? node.parameters "functionCode" with
  | some (.str code) => if code = "" then none else some code
  | _ => none

/-- The line feeds of the code that a kind makes of a node, with the one behind its last line. -/
def Kind.codeFeeds (node : Node) : Kind → Nat
  | .httpRequest => 1 + lineFeeds node.requestMethod + lineFeeds node.requestUrl
  | .set => (node.entries.filter hasName).length
  | .function => (node.authorCode?.map fun code => lineFeeds code + 1).getD 0

/-- The line feeds of a node's code, with the one behind its last line. -/
def codeFeeds (node : Node) : Nat :=
  (node.kind?.map fun kind => kind.codeFeeds node).getD (1 + lineFeeds node.type)

theorem stringParameter?_functionCode (node : Node) :
    node.stringParameter? "functionCode" = node.authorCode? := by
  rw [Node.stringParameter?, Node.authorCode?]
  rcases Members.get? node.parameters "functionCode" with _ | v
  · rfl
  · cases v with
    | str code => by_cases h : code = "" <;> simp [Value.asString?, h]
    | _ => rfl

/-! ### The lines of a node's code -/

theorem lineFeeds_notice (type : String) :
    lineFeeds ("// unhandled node type: " ++ type) = lineFeeds type := by
  simp [lineFeeds]

/-- The statement of a request goes over as many lines as method and address do; they are written as
they are. -/
theorem lineFeeds_requestLine (identifier method url : String) :
    lineFeeds (requestLine identifier method url) =
      lineFeeds identifier + lineFeeds method + lineFeeds url := by
  simp [lineFeeds, requestLine, Nat.add_assoc]

/-- A header goes over as many lines as name and type do. -/
theorem lineFeeds_headerLine (node : Node) :
    lineFeeds (headerLine node) = lineFeeds node.name + lineFeeds node.type := by
  simp [lineFeeds, headerLine]

theorem length_code_singleton (statement : String) :
    (([statement].map indented).flatMap linesOf).length = lineFeeds statement + 1 := by
  rw [List.map_singleton, List.flatMap_singleton, length_linesOf, lineFeeds_indented]

theorem length_code_unhandled (node : Node) :
    (((emitUnhandled node).lines.map indented).flatMap linesOf).length =
      1 + lineFeeds node.type := by
  rw [emitUnhandled, length_code_singleton, lineFeeds_notice, Nat.add_comm]

/-- A request is one statement, which may be several lines. -/
theorem length_code_request (node : Node) :
    (((emitRequest node).lines.map indented).flatMap linesOf).length =
      1 + lineFeeds node.requestMethod + lineFeeds node.requestUrl := by
  rw [emitRequest, length_code_singleton, lineFeeds_requestLine, lineFeeds_identifierOf]
  omega

/-- A set node has a line for each entry with a name, and no entry makes two. -/
theorem length_code_set (node : Node) :
    (((emitSet node).lines.map indented).flatMap linesOf).length =
      (node.entries.filter hasName).length := by
  rw [Workflow.flatMap_linesOf_constants, List.length_map]
  exact (forall₂_declares node).length_eq.symm

/-- A function node has the lines of its author's code, and none without code. -/
theorem length_code_function (node : Node) :
    (((emitFunction node).lines.map indented).flatMap linesOf).length =
      (node.authorCode?.map fun code => lineFeeds code + 1).getD 0 := by
  rw [emitFunction, stringParameter?_functionCode]
  cases node.authorCode? with
  | none => rfl
  | some code =>
    -- the lines of the code have no line feeds left, so each is one line of the program
    have hline : ∀ line ∈ linesOf code, (linesOf (indented line)).length = 1 := by
      intro line hline
      have hnone : lineFeeds line = 0 := List.count_eq_zero.2 (lineFeed_notMem_of_mem_linesOf hline)
      rw [length_linesOf, lineFeeds_indented, hnone]
    calc (((linesOf code).map indented).flatMap linesOf).length
      _ = ((linesOf code).map fun line => (linesOf (indented line)).length).sum := by
        rw [List.flatMap_map, List.length_flatMap]
      _ = ((linesOf code).map fun _ => 1).sum := by rw [List.map_congr_left hline]
      _ = lineFeeds code + 1 := by simp [length_linesOf]

/-- The code of a node has the lines that its line feeds say. -/
theorem length_code (node : Node) :
    (((Registry.standard.emit node).lines.map indented).flatMap linesOf).length =
      codeFeeds node := by
  rw [Registry.emit_standard, codeFeeds]
  cases node.kind? with
  | none => exact length_code_unhandled node
  | some kind =>
    cases kind with
    | httpRequest => exact length_code_request node
    | set => exact length_code_set node
    | function => exact length_code_function node

theorem length_filter_hasName (entries : List Value) :
    (entries.filter hasName).length = (entries.map hasName).countP id := by
  rw [List.countP_map, ← List.countP_eq_length_filter]
  rfl

/-! ### The lines of a program -/

namespace Workflow

/-- The lines of a node's block: its header, its code and an empty line. -/
theorem length_body_singleton (node : Node) :
    (body { nodes := [node] }).length =
      2 + lineFeeds node.name + lineFeeds node.type + codeFeeds node := by
  have hempty : linesOf "" = [""] := by decide +kernel
  rw [body_eq, List.flatMap_singleton, Registry.block, List.flatMap_append, List.flatMap_cons,
    List.flatMap_singleton, List.length_append, List.length_append, length_code, length_linesOf,
    lineFeeds_indented, lineFeeds_headerLine, hempty, List.length_singleton]
  omega

/-- **Line feeds add up.** Seven lines are the same in every program, which has one line feed less
than it has lines; every node brings as many as its block has lines. -/
theorem lineFeeds_compile (workflow : Workflow) :
    lineFeeds workflow.compile =
      6 + (workflow.nodes.map fun node => (body { nodes := [node] }).length).sum := by
  have hopening : openingLines.length = 4 := rfl
  have hclosing : closingLines.length = 3 := rfl
  have hbody : (workflow.nodes.flatMap Registry.standard.block).flatMap linesOf =
      workflow.nodes.flatMap fun node => body { nodes := [node] } := by
    rw [← body_eq_flatMap, body_eq]
  have hlines := length_linesOf workflow.compile
  rw [linesOf_compile, List.length_append, List.length_append, hopening, hclosing, hbody,
    List.length_flatMap] at hlines
  omega

/-- Two nodes are alike in what can be of several lines. -/
structure AlikeInFeeds (node other : Node) : Prop where
  /-- their names have as many line feeds -/
  name : lineFeeds node.name = lineFeeds other.name
  /-- they have one type -/
  type : node.type = other.type
  /-- if they are requests, their methods and addresses have as many line feeds -/
  request : node.kind? = some .httpRequest →
    lineFeeds node.requestMethod = lineFeeds other.requestMethod ∧
      lineFeeds node.requestUrl = lineFeeds other.requestUrl
  /-- if they set values, the same of their entries have names, whatever the names and the values -/
  entries : node.kind? = some .set → node.entries.map hasName = other.entries.map hasName
  /-- if they are functions, their code is the same -/
  code : node.kind? = some .function → node.authorCode? = other.authorCode?

/-- Nodes that agree in what can bring line feeds bring as many of them. Values and names of
constants are not among that. -/
theorem AlikeInFeeds.codeFeeds_eq {node other : Node} (h : AlikeInFeeds node other) :
    codeFeeds node = codeFeeds other := by
  have hkind : other.kind? = node.kind? := by rw [Node.kind?, Node.kind?, h.type]
  rw [codeFeeds, codeFeeds, hkind]
  cases hcase : node.kind? with
  | none => rw [h.type]; rfl
  | some kind =>
    cases kind with
    | httpRequest =>
      obtain ⟨hmethod, hurl⟩ := h.request hcase
      simp [Kind.codeFeeds, hmethod, hurl]
    | set =>
      have hentries := h.entries hcase
      simp [Kind.codeFeeds, length_filter_hasName, hentries]
    | function => simp [Kind.codeFeeds, h.code hcase]

theorem AlikeInFeeds.length_body_eq {node other : Node} (h : AlikeInFeeds node other) :
    (body { nodes := [node] }).length = (body { nodes := [other] }).length := by
  rw [length_body_singleton, length_body_singleton, h.name, h.type, h.codeFeeds_eq]

/-- **Line feeds add up.** A program has six line feeds of its own, and for each node two, those of
its name and its type, and those of its code, which the emitter of its type decides. So nodes that
are alike in what can be of several lines have blocks of equally many lines, and their programs
have equally many; the names and values that a set node gives do not matter for that. -/
theorem line_feeds_add_up (workflow : Workflow) :
    (∀ node : Node, Registry.standard.resolve? node.type = node.kind?.map Kind.emitter) ∧
    lineFeeds workflow.compile =
      6 + (workflow.nodes.map fun node =>
        2 + lineFeeds node.name + lineFeeds node.type + codeFeeds node).sum ∧
    (∀ node : Node, (body { nodes := [node] }).length =
      2 + lineFeeds node.name + lineFeeds node.type + codeFeeds node) ∧
    ∀ other : Workflow, List.Forall₂ AlikeInFeeds workflow.nodes other.nodes →
      (workflow.nodes.map fun node => (body { nodes := [node] }).length) =
        (other.nodes.map fun node => (body { nodes := [node] }).length) ∧
      lineFeeds workflow.compile = lineFeeds other.compile := by
  refine ⟨fun node => Registry.resolve?_standard node.type, ?_, length_body_singleton,
    fun other h => ?_⟩
  · simp only [lineFeeds_compile, length_body_singleton]
  · have hlengths : (workflow.nodes.map fun node => (body { nodes := [node] }).length) =
        other.nodes.map fun node => (body { nodes := [node] }).length := by
      generalize workflow.nodes = nodes at h
      generalize other.nodes = others at h
      induction h with
      | nil => rfl
      | cons hnode _ ih => rw [List.map_cons, List.map_cons, hnode.length_body_eq, ih]
    exact ⟨hlengths, by rw [lineFeeds_compile, lineFeeds_compile, hlengths]⟩

/-- A set node, a request and a function, with line feeds in every text. -/
def sprawling : Workflow where
  nodes := [settingUp,
    { name := "Ask\nfirst", type := "n8n-nodes-base.httpRequest",
      parameters := [("method", .str "P\nUT"), ("url", .str "http://host/\n")] },
    { name := "Then", type := "function", parameters := [("functionCode", .str "\n")] },
    { name := "Wait", type := "noOp\n" }]

/-- The set node with other names and values, and a name of its own without a line feed. -/
def settingOther : Node where
  name := "Set\rup"
  type := "n8n-nodes-base.set"
  parameters := [("values", .arr
    [.obj [("name", .str "\n\n")], .null, .arr [], .obj [("name", .null)],
      .obj [("name", .str ""), ("value", .str "a\nb")]])]

theorem sprawling_line_feeds :
    lineFeeds sprawling.compile = 25 ∧
      lineFeeds (compile { nodes := settingOther :: sprawling.nodes.tail }) = 25 := by
  obtain ⟨-, hsum, -, halike⟩ := line_feeds_add_up sprawling
  have hset : AlikeInFeeds settingUp settingOther :=
    ⟨by decide +kernel, rfl, fun h => absurd h (by decide +kernel), fun _ => by decide +kernel,
      fun h => absurd h (by decide +kernel)⟩
  have hrest : List.Forall₂ AlikeInFeeds sprawling.nodes.tail sprawling.nodes.tail :=
    List.forall₂_same.2 fun _ _ => ⟨rfl, rfl, fun _ => ⟨rfl, rfl⟩, fun _ => rfl, fun _ => rfl⟩
  have hcount : lineFeeds sprawling.compile = 25 := by
    rw [hsum]
    decide +kernel
  have hother := halike { nodes := settingOther :: sprawling.nodes.tail } (.cons hset hrest)
  exact ⟨hcount, hother.2.symm.trans hcount⟩

end Workflow

end FlowScript
