import FlowScript.Json.Value
import FlowScript.OrderedMap

/-!
# Workflows

A workflow is a sequence of nodes and the connections between them. Nodes are told apart
by their names alone; a connection runs from a node, out of one of its channels and a
slot of that channel, to a target. The stored order of the nodes is the order in which
their code runs.

* `Workflow.edges` lists the connections with their sources; `Workflow.downstream` the
  targets of one node.
* `Workflow.withNode` and `Workflow.withConnection` build workflows step by step.
-/

namespace FlowScript

/-- The channel that carries ordinary data. -/
def mainChannel : String := "main"

/-- The receiving end of a connection. -/
structure Target where
  /-- the name of the receiving node -/
  node : String
  /-- the channel at which it receives -/
  channel : String := mainChannel
  /-- the slot of that channel -/
  index : UInt64 := 0
deriving DecidableEq

/-- The channels out of one node: the slots of each, and the targets of each slot. -/
abbrev Channels : Type := OrderedMap (List (List Target))

/-- The connections of a workflow, by the name of the node they leave. -/
abbrev Connections : Type := OrderedMap Channels

/-- One step of a workflow. -/
structure Node where
  /-- the identifier that the store gave it -/
  id : Option String := none
  /-- the name, by which connections refer to it -/
  name : String
  /-- the dotted type -/
  type : String
  /-- the version of the type -/
  typeVersion : Option Binary64 := none
  /-- free-form parameters -/
  parameters : Json.Members := []
  /-- the place on the canvas -/
  position : Binary64 × Binary64 := (.zero, .zero)
  /-- whether the node is switched off in the editor -/
  disabled : Bool := false

/-- A workflow document. -/
structure Workflow where
  /-- the identifier that the store gave it -/
  id : Option String := none
  /-- the name -/
  name : String := ""
  /-- whether the workflow is switched on in the store -/
  active : Bool := false
  /-- the nodes, in stored order -/
  nodes : List Node := []
  /-- the connections between the nodes -/
  connections : Connections := .empty
  /-- settings that are kept as they are -/
  settings : Option Json.Value := none

namespace Node

/-- Sets a parameter. -/
def withParameter (node : Node) (key : String) (value : Json.Value) : Node :=
  { node with parameters := Json.Members.insert node.parameters key value }

/-- A parameter, if it is a string and not empty. -/
def stringParameter? (node : Node) (key : String) : Option String :=
  ((Json.Members.get? node.parameters key).bind Json.Value.asString?).filter (· ≠ "")

end Node

/-- All targets of a node's channels, in the order of channels and slots. -/
def Channels.targets (channels : Channels) : List Target :=
  channels.values.flatten.flatten

namespace Workflow

/-- Adds a node at the end. -/
def withNode (workflow : Workflow) (node : Node) : Workflow :=
  { workflow with nodes := workflow.nodes ++ [node] }

/-- Adds a target to the first of some slots. -/
def addToFirstSlot (target : Target) : List (List Target) → List (List Target)
  | [] => [[target]]
  | slot :: rest => (slot ++ [target]) :: rest

/-- Adds a connection between main channels, out of the first slot. -/
def withConnection (workflow : Workflow) (source target : String) : Workflow :=
  { workflow with
    connections := workflow.connections.modify source fun channels =>
      (channels.getD .empty).modify mainChannel fun slots =>
        addToFirstSlot { node := target } (slots.getD []) }

/-- The first node with a name. -/
def node? (workflow : Workflow) (name : String) : Option Node :=
  workflow.nodes.find? fun node => node.name == name

/-- The position of the first node with a name. -/
def nodeIndex? (workflow : Workflow) (name : String) : Option Nat :=
  workflow.nodes.findIdx? fun node => node.name == name

/-- The names of the nodes that a node feeds, in the order of its channels and slots. -/
def downstream (workflow : Workflow) (name : String) : List String :=
  match workflow.connections.get? name with
  | some channels => channels.targets.map Target.node
  | none => []

/-- Every connection, as its source and its target, in the order of the sources. -/
def edges (workflow : Workflow) : List (String × Target) :=
  workflow.connections.entries.flatMap fun (source, channels) =>
    channels.targets.map fun target => (source, target)

end Workflow

/-! ### Kinds of nodes

The families of node types that have code of their own. A type is dotted, and only its
last segment tells the kind. -/

/-- The kinds of nodes with code of their own. -/
inductive Kind where
  /-- a request to another server -/
  | httpRequest
  /-- values given names -/
  | set
  /-- code written by the workflow's author -/
  | function
deriving DecidableEq, Repr

namespace Kind

/-- All kinds. -/
def all : List Kind := [.httpRequest, .set, .function]

/-- The last segment of the types of a kind. -/
def key : Kind → String
  | .httpRequest => "httpRequest"
  | .set => "set"
  | .function => "function"

/-- The kind with a key. -/
def ofKey? (key : String) : Option Kind := all.find? fun kind => kind.key == key

end Kind

/-- The part of a dotted text behind its last dot, or all of it. -/
def lastSegment (cs : List Char) : List Char :=
  (cs.reverse.takeWhile (· != '.')).reverse

/-- The last segment of a dotted type. -/
def typeKey (type : String) : String := String.ofList (lastSegment type.toList)

/-- The kind of a dotted type. -/
def Kind.ofType? (type : String) : Option Kind := Kind.ofKey? (typeKey type)

/-- The kind of a node. -/
def Node.kind? (node : Node) : Option Kind := Kind.ofType? node.type

end FlowScript
