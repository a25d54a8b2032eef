import FlowScript.Json.Printer
import FlowScript.Workflow.Basic

/-!
# Writing workflow documents

The one written form of a workflow: fields in a fixed order, identifiers, versions and
settings left out when there are none, and all other fields written even where they are
at their defaults.
-/

namespace FlowScript

open Json

/-- A member that is left out when there is no value. -/
def Json.Members.optional (key : String) (value : Option Value) : Members :=
  match value with
  | some v => [(key, v)]
  | none => []

/-- Writes a target. -/
def Target.toValue (target : Target) : Value :=
  .obj [("node", .str target.node), ("type", .str target.channel),
    ("index", .ofUInt64 target.index)]

/-- Writes a map, its members in the order of the keys. -/
def OrderedMap.toValue {α : Type} (item : α → Value) (m : OrderedMap α) : Value :=
  .obj (m.entries.map fun (key, a) => (key, item a))

/-- Writes connections. -/
def Connections.toValue (connections : Connections) : Value :=
  OrderedMap.toValue
    (OrderedMap.toValue fun slots =>
      .arr (slots.map fun targets => .arr (targets.map Target.toValue)))
    connections

/-- Writes a node. -/
def Node.toValue (node : Node) : Value :=
  .obj (Members.optional "id" (node.id.map .str) ++
    [("name", .str node.name), ("type", .str node.type)] ++
    Members.optional "typeVersion" (node.typeVersion.map .ofBinary64) ++
    [("parameters", .obj node.parameters),
      ("position", .arr [.ofBinary64 node.position.1, .ofBinary64 node.position.2]),
      ("disabled", .bool node.disabled)])

/-- Writes a workflow. -/
def Workflow.toValue (workflow : Workflow) : Value :=
  .obj (Members.optional "id" (workflow.id.map .str) ++
    [("name", .str workflow.name), ("active", .bool workflow.active),
      ("nodes", .arr (workflow.nodes.map Node.toValue)),
      ("connections", Connections.toValue workflow.connections)] ++
    Members.optional "settings" workflow.settings)

/-- The text of a workflow. -/
def Workflow.text (workflow : Workflow) : String := workflow.toValue.text

end FlowScript
