import FlowScript.Json.Schema
import FlowScript.Workflow.Basic

/-!
# The schema of workflow documents

What a well-formed workflow document looks like. Reading accepts more than the schema
admits, and writing produces less.
-/

namespace FlowScript

open Json

/-- The schema of a target. -/
def Target.schema : Schema :=
  [.description "One end of a connection: which node input receives the output.",
    .types [.object], .required ["node"],
    .properties
      [("index", [.description "Input slot index", .default (.ofUInt64 0), .types [.integer],
          .format "uint", .minimum .zero]),
        ("node", [.description "Target node name", .types [.string]]),
        ("type", [.description "Input port name (usually `main`)", .default (.str mainChannel),
          .types [.string]])]]

/-- The schema of a node. -/
def Node.schema : Schema :=
  [.description "One step of the workflow.", .types [.object], .required ["name", "type"],
    .properties
      [("disabled", [.description "Whether the node is disabled in the editor",
          .default (.bool false), .types [.boolean]]),
        ("id", [.description "Store-assigned node identifier", .types [.string, .null]]),
        ("name",
          [.description "Unique (per workflow) node name; the only handle used by connections",
            .types [.string]]),
        ("parameters",
          [.description "Free-form node parameters; anything but an object reads as empty",
            .default (.obj []), .types [.object], .additionalAny]),
        ("position", [.description "Canvas position `[x, y]`",
          .default (.arr [.ofBinary64 .zero, .ofBinary64 .zero]), .types [.array],
          .items [.types [.number], .format "double"], .maxItems 2, .minItems 2]),
        ("type", [.description "Dotted type identifier, e.g. `n8n-nodes-base.httpRequest`",
          .types [.string]]),
        ("typeVersion", [.description "Version of the node type", .types [.number, .null],
          .format "double"])]]

/-- The schema of a workflow. -/
def Workflow.schema : RootSchema where
  schema :=
    [.title "Workflow", .description "A complete workflow document.", .types [.object],
      .required ["nodes"],
      .properties
        [("active", [.description "Whether the workflow is activated in the store",
            .default (.bool false), .types [.boolean]]),
          ("connections",
            [.description "Output-to-input wiring between nodes, keyed by source node name",
              .default (.obj []), .types [.object],
              .additional [.types [.object],
                .additional [.types [.array],
                  .items [.types [.array], .items [.reference "ConnectionTarget"]]]]]),
          ("id", [.description "Store-assigned identifier (older stores return a number)",
            .types [.string, .null]]),
          ("name", [.description "Human-readable workflow name", .default (.str ""),
            .types [.string]]),
          ("nodes", [.description "Nodes in stored order. Code is emitted in exactly this order.",
            .types [.array], .items [.reference "Node"]]),
          ("settings",
            [.description "Opaque workflow settings (timezone, error workflow, ...)"])]]
  definitions := [("ConnectionTarget", Target.schema), ("Node", Node.schema)]

end FlowScript
