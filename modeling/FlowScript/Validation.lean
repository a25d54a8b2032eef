import FlowScript.Script.Emission
import FlowScript.Similarity

/-!
# Validation

The warnings of a workflow: first those on the names of its nodes, then those on its
connections, then those on the types of its nodes. Code is made of any workflow; the
warnings say where the order of the nodes, the names or the types make it doubtful.
-/

namespace FlowScript

/-! ### Warnings

What can be wrong with a workflow without keeping it from becoming a program. Each
warning carries what it is about, and one function words them all. -/

/-- A condition under which the program of a workflow is likely not what was meant. -/
inductive Warning where
  /-- there are no nodes -/
  | emptyWorkflow
  /-- several nodes have one name -/
  | duplicateName (name : String)
  /-- several names become one identifier -/
  | identifierCollision (identifier : String) (names : List String)
  /-- connections leave a node that does not exist -/
  | unknownSource (node : String) (available : List String)
  /-- a connection leads to a node that does not exist -/
  | unknownTarget (source target : String) (available : List String)
  /-- a connection leads to a node that runs earlier -/
  | outOfOrder (source target : String)
  /-- a node has a type without an emitter -/
  | unhandledType (node type : String)
deriving DecidableEq

/-- A hint at the name that was meant, if one is similar. -/
def suggestion (name : String) (candidates : List String) : String :=
  match similarName? name candidates with
  | some candidate => ". Did you mean '" ++ candidate ++ "'?"
  | none => ""

/-- A name in single quotes. -/
def inQuotes (name : String) : String := "'" ++ name ++ "'"

/-- The wording of a warning. -/
def Warning.message : Warning → String
  | .emptyWorkflow => "[W001] Workflow has no nodes; generated program is empty"
  | .duplicateName name => "[W002] Node name " ++ inQuotes name ++ " is used more than once"
  | .identifierCollision identifier names =>
    "[W003] Nodes " ++ String.intercalate ", " (names.map inQuotes) ++
      " all map to identifier " ++ inQuotes identifier ++ "; generated code redeclares it"
  | .unknownSource node available =>
    "[W010] Connection source " ++ inQuotes node ++ " is not a node in this workflow" ++
      suggestion node available
  | .unknownTarget source target available =>
    "[W011] Node " ++ inQuotes source ++ " connects to unknown node " ++ inQuotes target ++
      suggestion target available
  | .outOfOrder source target =>
    "[W020] Node " ++ inQuotes source ++ " feeds " ++ inQuotes target ++
      ", which is emitted earlier; code runs in list order"
  | .unhandledType node type =>
    "[W030] Node " ++ inQuotes node ++ ": type " ++ inQuotes type ++
      " has no emitter and becomes a comment"

/-! ### What is warned of -/

namespace Workflow

/-- The names of the nodes, in stored order. -/
def nodeNames (workflow : Workflow) : List String := workflow.nodes.map Node.name

/-! ### Names -/

/-- The names that occur again, each where it first does: `seen` holds the names before,
`reported` those already found again. -/
def repeatedFrom (seen reported : List String) : List String → List String
  | [] => []
  | name :: rest =>
    if seen.contains name && !reported.contains name then
      name :: repeatedFrom seen (name :: reported) rest
    else repeatedFrom (name :: seen) reported rest

/-- The names that more than one node has, in the order of their second occurrence. -/
def repeatedNames (workflow : Workflow) : List String :=
  repeatedFrom [] [] workflow.nodeNames

/-- Adds a name to names unless it is among them. -/
def addName (name : String) (names : Option (List String)) : List String :=
  let names := names.getD []
  if names.contains name then names else names ++ [name]

/-- The different names of the nodes by the identifier they become. -/
def namesByIdentifier (workflow : Workflow) : OrderedMap (List String) :=
  workflow.nodeNames.foldl
    (fun groups name => groups.modify (identifierOf name) (addName name)) .empty

/-- The warnings on names. -/
def nameWarnings (workflow : Workflow) : List Warning :=
  workflow.repeatedNames.map Warning.duplicateName ++
    (workflow.namesByIdentifier.entries.filter fun entry => 1 < entry.2.length).map
      fun (identifier, names) => .identifierCollision identifier names

/-! ### Connections -/

/-- The position of each name. Nodes are entered from the last to the first, so that of
several nodes with one name the first counts. -/
def positions (workflow : Workflow) : OrderedMap Nat :=
  workflow.nodeNames.zipIdx.foldr (fun (name, i) places => places.insert name i) .empty

/-- The warnings on nodes that connections leave. -/
def sourceWarnings (workflow : Workflow) (places : OrderedMap Nat) : List Warning :=
  (workflow.connections.keys.filter fun source => (places.get? source).isNone).map
    fun source => .unknownSource source workflow.nodeNames

/-- The warning on a connection. A connection that leaves an unknown node has none of its
own. -/
def edgeWarning? (workflow : Workflow) (places : OrderedMap Nat) (edge : String × Target) :
    Option Warning :=
  match places.get? edge.1, places.get? edge.2.node with
  | none, _ => none
  | some _, none => some (.unknownTarget edge.1 edge.2.node workflow.nodeNames)
  | some earlier, some later =>
    if later < earlier then some (.outOfOrder edge.1 edge.2.node) else none

/-- The warnings on connections. -/
def connectionWarnings (workflow : Workflow) : List Warning :=
  let places := workflow.positions
  workflow.sourceWarnings places ++ workflow.edges.filterMap (workflow.edgeWarning? places)

/-! ### Types -/

/-- The warnings on types. -/
def typeWarnings (workflow : Workflow) (registry : Registry) : List Warning :=
  (workflow.nodes.filter fun node => !registry.handles node.type).map
    fun node => .unhandledType node.name node.type

/-! ### All together -/

/-- The warning on a workflow without nodes. -/
def emptyWarnings (workflow : Workflow) : List Warning :=
  if workflow.nodes.isEmpty then [.emptyWorkflow] else []

/-- The warnings of a workflow whose code is made by a registry. -/
def warningsWith (workflow : Workflow) (registry : Registry) : List Warning :=
  workflow.emptyWarnings ++ workflow.nameWarnings ++ workflow.connectionWarnings ++
    workflow.typeWarnings registry

/-- The warnings of a workflow. -/
def warnings (workflow : Workflow) : List Warning := workflow.warningsWith .standard

end Workflow

end FlowScript
