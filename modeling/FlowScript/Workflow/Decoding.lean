import FlowScript.Json.Decoder
import FlowScript.Workflow.Basic

/-!
# Reading workflow documents

Reading is lenient: only the nodes of a workflow and the name and type of a node are
required, and most other fields take their default when they hold something else than
they should. What must be right is what the order of the code and the connections rest
on.
-/

namespace FlowScript

open Json

/-! ### Lenient fields

What a field reads as, whatever it holds. -/

namespace Lenient

/-- An identifier: a string, or the text of a number. -/
def identifier : Value → Option String
  | .str s => some s
  | .num n => some (String.ofList n.text)
  | _ => none

/-- A string, or else the empty one. -/
def text (value : Value) : String := value.asString?.getD ""

/-- A truth value, or else `false`. -/
def flag (value : Value) : Bool := value.asBool?.getD false

/-- A number, or else none. -/
def number (value : Value) : Option Binary64 := value.asBinary64?

/-- The members of an object, or else none. -/
def members : Value → Members
  | .obj members => members
  | _ => []

/-- The first two items of an array, if both are numbers, or else the origin. -/
def position : Value → Binary64 × Binary64
  | .arr (x :: y :: _) =>
    match x.asBinary64?, y.asBinary64? with
    | some a, some b => (a, b)
    | _, _ => (.zero, .zero)
  | _ => (.zero, .zero)

end Lenient

/-! ### Documents -/

/-- The fields of a target. -/
def Target.fields : List (Decoder.Field Target) :=
  [.mandatory "node" .text fun value target => { target with node := value },
    .withDefault "type" .text fun value target => { target with channel := value },
    .withDefault "index" .index fun value target => { target with index := value }]

/-- Reads a target. -/
def Target.decoder : Decoder Target := .record "ConnectionTarget" Target.fields { node := "" }

/-- Reads connections. Of a repeated key the last value counts. -/
def Connections.decoder : Decoder Connections :=
  .table
    (.table (.list (.list Target.decoder)) .empty OrderedMap.insert) .empty OrderedMap.insert

/-- The fields of a node. -/
def Node.fields : List (Decoder.Field Node) :=
  [.withDefault "id" (.map Lenient.identifier .any) fun value node => { node with id := value },
    .mandatory "name" .text fun value node => { node with name := value },
    .mandatory "type" .text fun value node => { node with type := value },
    .withDefault "typeVersion" (.map Lenient.number .any)
      fun value node => { node with typeVersion := value },
    .withDefault "parameters" (.map Lenient.members .any)
      fun value node => { node with parameters := value },
    .withDefault "position" (.map Lenient.position .any)
      fun value node => { node with position := value },
    .withDefault "disabled" (.map Lenient.flag .any)
      fun value node => { node with disabled := value }]

/-- Reads a node. -/
def Node.decoder : Decoder Node := .record "Node" Node.fields { name := "", type := "" }

/-- The fields of a workflow. -/
def Workflow.fields : List (Decoder.Field Workflow) :=
  [.withDefault "id" (.map Lenient.identifier .any)
      fun value workflow => { workflow with id := value },
    .withDefault "name" (.map Lenient.text .any)
      fun value workflow => { workflow with name := value },
    .withDefault "active" (.map Lenient.flag .any)
      fun value workflow => { workflow with active := value },
    .mandatory "nodes" (.list Node.decoder)
      fun value workflow => { workflow with nodes := value },
    .withDefault "connections" Connections.decoder
      fun value workflow => { workflow with connections := value },
    .withDefault "settings" (.optional .any)
      fun value workflow => { workflow with settings := value }]

/-- Reads a workflow. -/
def Workflow.decoder : Decoder Workflow := .record "Workflow" Workflow.fields { }

/-! ### Failures -/

/-- Why a document is no workflow: the value has another shape, or the text has a fault
at a place. -/
inductive ParseError where
  /-- a value of another shape -/
  | value (difference : Mismatch)
  /-- a fault in a text -/
  | text (fault : Fault) (source : Source)

/-- The cause and the place, without what was being read. -/
def ParseError.detail : ParseError → String
  | .value difference => difference.message
  | .text fault source => fault.message source

/-- The wording of a failure to read a workflow. -/
def ParseError.message (error : ParseError) : String :=
  "Failed to parse workflow: " ++ error.detail

/-- Reads a workflow from a value. -/
def Workflow.ofValue (value : Value) : Except ParseError Workflow :=
  (Workflow.decoder.decode value).mapError .value

/-- Reads a workflow from a text. -/
def Workflow.ofText (text : String) : Except ParseError Workflow :=
  let source := Source.ofString text
  (Workflow.decoder.parse source).mapError fun fault => .text fault source

end FlowScript
