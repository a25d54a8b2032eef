import FlowScript.Script.Emission

/-!
# Programs

A workflow becomes a program: fixed opening lines, one block for each node in stored
order, fixed closing lines. The blocks of a program depend on the nodes alone, not on
the connections; that stored order is a sensible order is for the workflow's validation
to say.
-/

namespace FlowScript

/-! ### The scope of a script

All nodes of a workflow share one scope. The scope remembers which node bound an
identifier first, and which identifiers were bound again; it never changes the code. -/

/-- The identifiers bound so far. -/
structure Scope where
  /-- identifiers with the node that bound them first -/
  owners : List (String × String) := []
  /-- identifiers bound again, once for each time, in order -/
  redeclared : List String := []
deriving DecidableEq

namespace Scope

/-- The node that bound an identifier first. -/
def owner? (scope : Scope) (identifier : String) : Option String :=
  (scope.owners.find? fun entry => entry.1 == identifier).map Prod.snd

/-- Binds an identifier for a node. -/
def declare (scope : Scope) (identifier node : String) : Scope :=
  match scope.owner? identifier with
  | some _ => { scope with redeclared := scope.redeclared ++ [identifier] }
  | none => { scope with owners := scope.owners ++ [(identifier, node)] }

/-- Binds identifiers in order for a node. -/
def declareAll (scope : Scope) (identifiers : List String) (node : String) : Scope :=
  identifiers.foldl (fun scope identifier => scope.declare identifier node) scope

end Scope

/-! ### Lines -/

/-- A line one level deeper. -/
def indented (line : String) : String := "  " ++ line

/-- The lines before the first block. -/
def openingLines : List String :=
  ["// Auto-generated code from n8n workflow", "import axios from 'axios';", "",
    "async function main() \x7b"]

/-- The lines behind the last block. -/
def closingLines : List String := ["\x7d", "", "main().catch(console.error);"]

/-- The comment that heads the block of a node. -/
def headerLine (node : Node) : String := "// " ++ node.name ++ " (" ++ node.type ++ ")"

/-- A program that is being put together. -/
structure Draft where
  /-- the lines so far -/
  lines : List String
  /-- what those lines bind -/
  scope : Scope

/-- Adds the block of a node: its header, its code, and an empty line. What the code binds is
bound in the scope. -/
def Draft.add (registry : Registry) (draft : Draft) (node : Node) : Draft :=
  let emission := registry.emit node
  { lines := draft.lines ++ indented (headerLine node) :: emission.lines.map indented ++ [""],
    scope := draft.scope.declareAll emission.bindings node.name }

namespace Workflow

/-- The program of a workflow up to its closing lines, in a scope that may have bindings
already. -/
def draft (workflow : Workflow) (registry : Registry) (scope : Scope) : Draft :=
  workflow.nodes.foldl (Draft.add registry) { lines := openingLines, scope }

/-- The lines of a workflow's program. -/
def programLines (workflow : Workflow) (registry : Registry) : List String :=
  (workflow.draft registry { }).lines ++ closingLines

/-- The program of a workflow. -/
def compileWith (workflow : Workflow) (registry : Registry) : String :=
  Text.unlines (workflow.programLines registry)

/-- The program of a workflow, with the kinds that have code of their own. -/
def compile (workflow : Workflow) : String := workflow.compileWith .standard

/-- The scope of a workflow's program: every identifier that its nodes bind, in order. -/
def scope (workflow : Workflow) (registry : Registry) : Scope :=
  (workflow.draft registry { }).scope

end Workflow

end FlowScript
