import FlowScript.Json.Value

/-!
# JSON Schema

The part of JSON Schema that describes workflow documents. A schema is a list of
keywords, in the order in which they are written; each keyword restricts the values that
the schema admits, or says something about them and restricts nothing.
-/

namespace FlowScript

namespace Json

/-- The types that a schema tells apart. -/
inductive BasicType where
  /-- `null` -/
  | null
  /-- a truth value -/
  | boolean
  /-- an integer -/
  | integer
  /-- any number -/
  | number
  /-- a string -/
  | string
  /-- an array -/
  | array
  /-- an object -/
  | object
deriving DecidableEq

/-- The name of a type. -/
def BasicType.name : BasicType → String
  | .null => "null"
  | .boolean => "boolean"
  | .integer => "integer"
  | .number => "number"
  | .string => "string"
  | .array => "array"
  | .object => "object"

/-- A keyword of a schema. A schema below a keyword is again a list of keywords. -/
inductive Keyword where
  /-- what the described thing is called -/
  | title (text : String)
  /-- what the described thing is -/
  | description (text : String)
  /-- the value that stands for an absent one -/
  | default (value : Value)
  /-- the value has one of these types -/
  | types (allowed : List BasicType)
  /-- how a number is kept -/
  | format (name : String)
  /-- a number is not below this one -/
  | minimum (bound : Binary64)
  /-- an object has these members -/
  | required (names : List String)
  /-- a member with one of these keys is admitted by its schema -/
  | properties (fields : List (String × List Keyword))
  /-- members with other keys are admitted, whatever they are -/
  | additionalAny
  /-- members with other keys are admitted by this schema -/
  | additional (schema : List Keyword)
  /-- items of an array are admitted by this schema -/
  | items (schema : List Keyword)
  /-- an array has at most this many items -/
  | maxItems (count : UInt64)
  /-- an array has at least this many items -/
  | minItems (count : UInt64)
  /-- the value is admitted by the definition of this name -/
  | reference (definition : String)

/-- A schema: all its keywords hold. -/
abbrev Schema : Type := List Keyword

/-- A schema with the definitions to which it refers. -/
structure RootSchema where
  /-- the schema of the document -/
  schema : Schema
  /-- the schemas of its parts, by name -/
  definitions : List (String × Schema)

/-- The written form of the types: one alone, or several in an array. -/
def typesValue : List BasicType → Value
  | [type] => .str type.name
  | several => .arr (several.map fun type => .str type.name)

mutual

/-- The written form of a keyword. -/
def Keyword.member : Keyword → String × Value
  | .title text => ("title", .str text)
  | .description text => ("description", .str text)
  | .default value => ("default", value)
  | .types allowed => ("type", typesValue allowed)
  | .format name => ("format", .str name)
  | .minimum bound => ("minimum", .ofBinary64 bound)
  | .required names => ("required", .arr (names.map .str))
  | .properties fields => ("properties", .obj (fieldsMembers fields))
  | .additionalAny => ("additionalProperties", .bool true)
  | .additional schema => ("additionalProperties", .obj (schemaMembers schema))
  | .items schema => ("items", .obj (schemaMembers schema))
  | .maxItems count => ("maxItems", .ofUInt64 count)
  | .minItems count => ("minItems", .ofUInt64 count)
  | .reference definition => ("$ref", .str ("#/definitions/" ++ definition))

/-- The written form of a schema. -/
def schemaMembers : List Keyword → Members
  | [] => []
  | keyword :: rest => keyword.member :: schemaMembers rest

/-- The written form of the schemas of fields. -/
def fieldsMembers : List (String × List Keyword) → Members
  | [] => []
  | (name, schema) :: rest => (name, .obj (schemaMembers schema)) :: fieldsMembers rest

end

/-- The written form of a schema with its definitions. -/
def RootSchema.toValue (root : RootSchema) : Value :=
  .obj (("$schema", .str "http://json-schema.org/draft-07/schema#") ::
    schemaMembers root.schema ++ [("definitions", .obj (fieldsMembers root.definitions))])

end Json

end FlowScript
