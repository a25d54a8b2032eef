import FlowScript.Json.Reader

/-!
# Decoders

A decoder knows one shape and reads it in two ways: from a value that is in memory, and
straight from text. Both ways accept the same documents; reading from text does not keep
what the shape ignores, and finds its faults in the order of the text.

* `Decoder.any`, `Decoder.scalar`, `Decoder.optional`, `Decoder.list` and
  `Decoder.table` are the shapes of values.
* `Decoder.record` reads a record of named fields. Fields may come in any order, unknown
  ones are passed over, and a field that is not required keeps its default. A record may
  also be written as an array of its fields in their order, of which the last may be
  left out if they are not required.
-/

namespace FlowScript

namespace Json

/-- A shape of documents, with its reading from a value and its reading from text; the
latter is told how deep brackets may still nest. -/
structure Decoder (α : Type) where
  /-- reads a value -/
  ofValue : Value → Except Mismatch α
  /-- reads the front of a text -/
  ofText : Nat → Reader α

namespace Decoder

/-- Decodes a value. -/
def decode {α : Type} (decoder : Decoder α) (value : Value) : Except Mismatch α :=
  decoder.ofValue value

/-- Decodes a whole text. -/
def parse {α : Type} (decoder : Decoder α) (source : Source) : Except Fault α :=
  readDocument (decoder.ofText depthLimit) source

/-- The same shape with another meaning. -/
def map {α β : Type} (f : α → β) (decoder : Decoder α) : Decoder β where
  ofValue value := (decoder.ofValue value).map f
  ofText depth source := (decoder.ofText depth source).map fun (a, rest) => (f a, rest)

/-! ### Values -/

/-- Any value. -/
def any : Decoder Value where
  ofValue value := .ok value
  ofText := readValue

/-- A value where something else was expected: a scalar is read first, a bracket is not. -/
def readMismatch {α : Type} (difference : Value → Mismatch) : Reader α := fun source =>
  match source with
  | some '[' :: _ => .error (.ofMismatch (difference (.arr [])) source)
  | some '\x7b' :: _ => .error (.ofMismatch (difference (.obj [])) source)
  | _ =>
    match readScalar source with
    | .error fault => .error fault
    | .ok (value, rest) => .error (.ofMismatch (difference value) rest)

/-- The difference that a value of the wrong type shows. -/
def typeMismatch (expected : String) (value : Value) : Mismatch :=
  .wrongType value.found expected

/-- A scalar that passes a check. Arrays and objects never pass. -/
def scalar {α : Type} (expected : String) (check : Value → Except Mismatch α) : Decoder α where
  ofValue value :=
    match value with
    | .arr _ => .error (typeMismatch expected value)
    | .obj _ => .error (typeMismatch expected value)
    | _ => check value
  ofText _ source :=
    match skipBlanks source with
    | [] => .error ⟨.endInValue, 0⟩
    | some '[' :: rest => readMismatch (typeMismatch expected) (some '[' :: rest)
    | some '\x7b' :: rest => readMismatch (typeMismatch expected) (some '\x7b' :: rest)
    | start =>
      match readScalar start with
      | .error fault => .error fault
      | .ok (value, rest) =>
        match check value with
        | .error difference => .error (.ofMismatch difference rest)
        | .ok a => .ok (a, rest)

/-- A string that stands for something else. -/
def stringAs {α : Type} (expected : String) (read : String → Except String α) : Decoder α :=
  scalar expected fun value =>
    match value with
    | .str s => (read s).mapError Mismatch.unreadable
    | _ => .error (typeMismatch expected value)

/-- A string. -/
def text : Decoder String := stringAs "a string" .ok

/-- A truth value. -/
def flag : Decoder Bool :=
  scalar "a boolean" fun value =>
    match value with
    | .bool b => .ok b
    | _ => .error (typeMismatch "a boolean" value)

/-- A count or an index: an integer from zero up, within 64 bits. -/
def index : Decoder UInt64 :=
  scalar "usize" fun value =>
    match value with
    | .num (.int i) =>
      if 0 ≤ i.val then .ok (UInt64.ofNat i.val.toNat)
      else .error (.wrongValue value.found "usize")
    | _ => .error (typeMismatch "usize" value)

/-- A value that may be `null`. -/
def optional {α : Type} (decoder : Decoder α) : Decoder (Option α) where
  ofValue value :=
    match value with
    | .null => .ok none
    | _ => (decoder.ofValue value).map some
  ofText depth source :=
    match skipBlanks source with
    | some 'n' :: rest => (readWord ['u', 'l', 'l'] rest).map fun rest => (none, rest)
    | start => (decoder.ofText depth start).map fun (a, rest) => (some a, rest)

/-! ### Arrays and objects -/

/-- Reads what stands between brackets, if it does. -/
def bracketed {α : Type} (opener : Char) (expected : String) (inner : Nat → Reader α) :
    Nat → Reader α := fun depth source =>
  match skipBlanks source with
  | [] => .error ⟨.endInValue, 0⟩
  | x :: rest =>
    if x = some opener then
      match depth with
      | 0 => .error (.atNext .recursionLimit (x :: rest))
      | depth + 1 => inner depth rest
    else readMismatch (typeMismatch expected) (x :: rest)

/-- An array of which every item has the same shape. -/
def list {α : Type} (item : Decoder α) : Decoder (List α) where
  ofValue value :=
    match value with
    | .arr items => items.mapM item.ofValue
    | _ => .error (typeMismatch "a sequence" value)
  ofText := bracketed '[' "a sequence" fun depth => readArray (item.ofText depth)

/-- An object with any keys, of which every value has the same shape, put together by
`insert` in the order of the members. -/
def table {α σ : Type} (item : Decoder α) (empty : σ) (insert : σ → String → α → σ) :
    Decoder σ where
  ofValue value :=
    match value with
    | .obj members =>
      members.foldlM (fun state (key, v) => (item.ofValue v).map (insert state key)) empty
    | _ => .error (typeMismatch "a map" value)
  ofText := bracketed '\x7b' "a map" fun depth =>
    foldObject (readMember (item.ofText depth) insert) empty

/-! ### Records -/

/-- A field of a record. What is read is the change that the field makes to the record. -/
structure Field (α : Type) where
  /-- the key of the field -/
  name : String
  /-- whether a record without the field is refused -/
  required : Bool
  /-- reads the value of the field -/
  update : Decoder (α → α)

namespace Field

/-- A field that every record has. -/
def mandatory {α β : Type} (name : String) (decoder : Decoder β) (set : β → α → α) : Field α :=
  ⟨name, true, decoder.map set⟩

/-- A field that keeps its default when it is left out. -/
def withDefault {α β : Type} (name : String) (decoder : Decoder β) (set : β → α → α) :
    Field α :=
  ⟨name, false, decoder.map set⟩

end Field

/-- A record while it is read: its fields so far, and the names that have been read. -/
structure Draft (α : Type) where
  /-- the record, with defaults where nothing has been read -/
  record : α
  /-- the fields that have been read -/
  seen : List String

/-- The field with a given key. -/
def field? {α : Type} (fields : List (Field α)) (key : String) : Option (Field α) :=
  fields.find? fun field => field.name == key

/-- The record, if no required field is missing. -/
def Draft.finish {α : Type} (fields : List (Field α)) (state : Draft α) :
    Except Mismatch α :=
  match fields.find? fun field => field.required && !state.seen.contains field.name with
  | some field => .error (.missingField field.name)
  | none => .ok state.record

/-- What an array of the wrong length should have been. -/
def lengthText (name : String) (count : Nat) : String :=
  "struct " ++ name ++ " with " ++ toString count ++ (if count = 1 then " element" else " elements")

/-- The position of the first required field among the fields from a position on. An
array that ends before it is as long, for the message, as that position. -/
def missingPosition {α : Type} : Nat → List (Field α) → Option Nat
  | _, [] => none
  | position, field :: fields =>
    if field.required then some position else missingPosition (position + 1) fields

/-! Reading a record from a value. -/

/-- One member of a record. -/
def memberOfValue {α : Type} (fields : List (Field α)) (state : Draft α)
    (member : String × Value) : Except Mismatch (Draft α) :=
  match field? fields member.1 with
  | none => .ok state
  | some field =>
    if state.seen.contains field.name then .error (.duplicateField field.name)
    else
      (field.update.ofValue member.2).map fun change =>
        ⟨change state.record, field.name :: state.seen⟩

/-- The fields of a record from the items of an array. -/
def positionalOfValue {α : Type} (lengthError : Nat → Mismatch) (total : Nat) :
    Nat → List (Field α) → α → List Value → Except Mismatch α
  | _, [], record, [] => .ok record
  | _, [], _, _ :: _ => .error (.wrongLength total "fewer elements in array")
  | position, field :: fields, record, [] =>
    match missingPosition position (field :: fields) with
    | some missing => .error (lengthError missing)
    | none => .ok record
  | position, field :: fields, record, item :: items =>
    match field.update.ofValue item with
    | .error difference => .error difference
    | .ok change =>
      positionalOfValue lengthError total (position + 1) fields (change record) items

/-! Reading a record from text. -/

/-- The rest behind a key that is refused, as far as the end of the object is found to
follow it at once. -/
def behindRefusedKey (source : Source) : Source :=
  match skipBlanks source with
  | some '\x7d' :: rest => rest
  | rest => rest

/-- One member of a record, behind its key. -/
def memberOfText {α : Type} (fields : List (Field α)) (depth : Nat) (state : Draft α)
    (key : String) : Reader (Draft α) := fun source =>
  match field? fields key with
  | none =>
    match readColon source with
    | .error fault => .error fault
    | .ok rest => (skipValue rest).map fun rest => (state, rest)
  | some field =>
    if state.seen.contains field.name then
      .error (.ofMismatch (.duplicateField field.name) (behindRefusedKey source))
    else
      readMember (field.update.ofText depth)
        (fun state _ change => (⟨change state.record, field.name :: state.seen⟩ : Draft α))
        state key source

/-- The end of a record that is written as an array. -/
def closePositional (source : Source) : Except Fault Source :=
  match skipBlanks source with
  | [] => .error ⟨.endInList, 0⟩
  | x :: rest =>
    if x = some ']' then .ok rest
    else if x = some ',' then
      match skipBlanks rest with
      | y :: after =>
        if y = some ']' then .error (.atNext .trailingComma (y :: after))
        else .error (.atNext .trailingCharacters (y :: after))
      | [] => .error ⟨.trailingCharacters, 0⟩
    else .error (.atNext .trailingCharacters (x :: rest))

/-- The fields of a record from the items of an array, behind its bracket or an item. -/
def positionalOfText {α : Type} (lengthError : Nat → Mismatch) (depth : Nat) :
    Nat → List (Field α) → α → Reader α
  | _, [], record, source => (closePositional source).map fun rest => (record, rest)
  | position, field :: fields, record, source =>
    match nextItem (position == 0) source with
    | .error fault => .error fault
    | .ok (.closed rest) =>
      match missingPosition position (field :: fields) with
      | some missing => .error (.ofMismatch (lengthError missing) rest)
      | none => .ok (record, rest)
    | .ok (.next rest) =>
      match field.update.ofText depth rest with
      | .error fault => .error fault
      | .ok (change, rest) =>
        positionalOfText lengthError depth (position + 1) fields (change record) rest

/-- A record with a name for messages, its fields in order, and the defaults. -/
def record {α : Type} (name : String) (fields : List (Field α)) (defaults : α) :
    Decoder α where
  ofValue value :=
    match value with
    | .obj members =>
      match members.foldlM (memberOfValue fields) ⟨defaults, []⟩ with
      | .error difference => .error difference
      | .ok state => state.finish fields
    | .arr items =>
      positionalOfValue (fun n => .wrongLength n (lengthText name fields.length)) items.length
        0 fields defaults items
    | _ => .error (typeMismatch ("struct " ++ name) value)
  ofText depth source :=
    match skipBlanks source with
    | [] => .error ⟨.endInValue, 0⟩
    | x :: rest =>
      if x = some '[' then
        match depth with
        | 0 => .error (.atNext .recursionLimit (x :: rest))
        | depth + 1 =>
          positionalOfText (fun n => .wrongLength n (lengthText name fields.length)) depth
            0 fields defaults rest
      else if x = some '\x7b' then
        match depth with
        | 0 => .error (.atNext .recursionLimit (x :: rest))
        | depth + 1 =>
          match foldObject (memberOfText fields depth) ⟨defaults, []⟩ rest with
          | .error fault => .error fault
          | .ok (state, rest) =>
            match state.finish fields with
            | .error difference => .error (.ofMismatch difference rest)
            | .ok record => .ok (record, rest)
      else readMismatch (typeMismatch ("struct " ++ name)) (x :: rest)

end Decoder

end Json

end FlowScript
