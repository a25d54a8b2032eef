import FlowScript.Json.Printer
import FlowScript.Text.Lines
import FlowScript.Text.Quoted
import FlowScript.Workflow.Basic

/-!
# Code of single nodes

The code of a node is a list of lines, together with the identifiers that those lines
bind. It depends on the node alone.

* A request binds its node's identifier to the awaited response.
* A set node binds one constant for each of its named values, written as JSON.
* A function node contributes its author's code, line by line, and binds nothing that
  is known here.
* Any other node leaves a comment.

Which code a node has is for a registry to say, by the node's type (`Registry.emit`).
-/

namespace FlowScript

/-! ### Identifiers of generated code

A name becomes an identifier by replacing every character that is not an ASCII letter or
digit by an underscore. Nothing else is done: the same name always gives the same
identifier, and different names can give the same one. -/

/-- The character that stands for a character in an identifier. -/
def identifierChar (c : Char) : Char := if Text.isAsciiAlphanumeric c then c else '_'

/-- The identifier of a name. -/
def identifierOf (name : String) : String := String.ofList (name.toList.map identifierChar)

/-! ### Emissions -/

/-- The code of a node. -/
structure Emission where
  /-- the lines, not indented -/
  lines : List String := []
  /-- the identifiers that the lines bind, in order -/
  bindings : List String := []
deriving DecidableEq

/-- How the code of a node is made. -/
abbrev Emitter : Type := Node → Emission

/-! ### Requests -/

/-- The method of a request, from the first of two parameters that has one. -/
def Node.requestMethod (node : Node) : String :=
  ((node.stringParameter? "httpMethod").or (node.stringParameter? "method")).getD "GET"

/-- The address of a request. -/
def Node.requestUrl (node : Node) : String :=
  ((Json.Members.get? node.parameters "url").bind Json.Value.asString?).getD ""

/-- The statement of a request. -/
def requestLine (identifier method url : String) : String :=
  "const " ++ identifier ++ " = await axios(\x7b method: '" ++ method ++ "', url: `" ++ url ++
    "` \x7d);"

/-- The code of a request. -/
def emitRequest : Emitter := fun node =>
  let identifier := identifierOf node.name
  { lines := [requestLine identifier node.requestMethod node.requestUrl],
    bindings := [identifier] }

/-! ### Values -/

/-- The literal of a value; an absent value is written as `undefined`. -/
def valueLiteral : Option Json.Value → String
  | some value => value.text
  | none => "undefined"

/-- The named values of a set node, with their names; entries without a name are passed
over. -/
def Node.namedValues (node : Node) : List (String × Option Json.Value) :=
  let entries := ((Json.Members.get? node.parameters "values").bind Json.Value.asArray?).getD []
  entries.filterMap fun entry =>
    ((entry.get? "name").bind Json.Value.asString?).map fun name => (name, entry.get? "value")

/-- The statement of a named value. -/
def constantLine (identifier literal : String) : String :=
  "const " ++ identifier ++ " = " ++ literal ++ ";"

/-- The code of a set node. -/
def emitSet : Emitter := fun node =>
  { lines := node.namedValues.map fun (name, value) =>
      constantLine (identifierOf name) (valueLiteral value),
    bindings := node.namedValues.map fun (name, _) => identifierOf name }

/-! ### Author's code -/

/-- The code of a function node: the lines of its parameter, if that is not empty. -/
def emitFunction : Emitter := fun node =>
  match node.stringParameter? "functionCode" with
  | some code => { lines := Text.linesOf code }
  | none => { }

/-! ### Other nodes -/

/-- The comment that a node of an unknown type leaves. -/
def emitUnhandled : Emitter := fun node =>
  { lines := ["// unhandled node type: " ++ node.type] }

/-- The emitter of a kind. -/
def Kind.emitter : Kind → Emitter
  | .httpRequest => emitRequest
  | .set => emitSet
  | .function => emitFunction

/-! ### Registries of emitters

A registry says which emitter makes the code of which node type. A type is looked up as
it is, and then by its last segment; a type that is found neither way leaves a comment. -/

/-- Emitters by the type, or the last segment of types, that they serve. -/
structure Registry where
  /-- the emitters, in the order of their keys -/
  emitters : OrderedMap Emitter

namespace Registry

/-- The registry in which no type is found. -/
def empty : Registry := ⟨.empty⟩

/-- Gives a key its emitter, in place of the one it had. -/
def register (registry : Registry) (key : String) (emitter : Emitter) : Registry :=
  ⟨registry.emitters.insert key emitter⟩

/-- The registry of the kinds that have code of their own. -/
def standard : Registry :=
  Kind.all.foldl (fun registry kind => registry.register kind.key kind.emitter) empty

/-- The emitter of a type. -/
def resolve? (registry : Registry) (type : String) : Option Emitter :=
  (registry.emitters.get? type).or (registry.emitters.get? (typeKey type))

/-- Whether a type has an emitter. -/
def handles (registry : Registry) (type : String) : Bool := (registry.resolve? type).isSome

/-- The code of a node. -/
def emit (registry : Registry) (node : Node) : Emission :=
  match registry.resolve? node.type with
  | some emitter => emitter node
  | none => emitUnhandled node

/-- A description of the registry by its keys. -/
def description (registry : Registry) : String :=
  "EmitterRegistry \x7b types: [" ++
    String.intercalate ", " (registry.emitters.keys.map Text.quoted) ++ "] \x7d"

end Registry

end FlowScript
