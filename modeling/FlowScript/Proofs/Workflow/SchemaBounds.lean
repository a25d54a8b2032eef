import FlowScript.Proofs.Json.Admission
import FlowScript.Proofs.Workflow.Grammar
import FlowScript.Workflow.Schema

/-!
# The schema of workflow documents lies between writing and reading

What the schema admits is told by a test of its own: `Workflow.isRegular` asks for objects, and
for a value of its kind in each field (`Workflow.admits_schema_iff`). The writer gives regular
documents only (`Workflow.isRegular_toValue`), and every regular document is in the grammar of
what is read (`Workflow.isDocument_of_isRegular`).
-/

namespace FlowScript

open Json

/-! ### Regular documents -/

/-- A string, or `null`. -/
def Json.Value.isTextOrNull : Value → Bool
  | .str _ | .null => true
  | _ => false

/-- A number, or `null`. -/
def Json.Value.isNumberOrNull : Value → Bool
  | .num _ | .null => true
  | _ => false

/-- An array of two numbers. -/
def Json.Value.isPair : Value → Bool
  | .arr [x, y] => x.isNumber && y.isNumber
  | _ => false

/-- A target in object form. -/
def Target.isRegular (v : Value) : Bool := v.isObject && Target.isDocument v

/-- A node in object form, its fields of their kinds. -/
def Node.isRegular : Value → Bool
  | .obj members =>
    conforms (Members.get? members "name") (Members.get? members "type") &&
      (Members.get? members "id").all Value.isTextOrNull &&
      (Members.get? members "typeVersion").all Value.isNumberOrNull &&
      (Members.get? members "parameters").all Value.isObject &&
      (Members.get? members "position").all Value.isPair &&
      (Members.get? members "disabled").all Value.isFlag
  | _ => false

/-- Connections between targets in object form. -/
def Connections.isRegular : Value → Bool :=
  Value.isTableOf (Value.isTableOf (Value.isListOf (Value.isListOf Target.isRegular)))

/-- A workflow in object form, its fields of their kinds and its nodes and targets regular. -/
def Workflow.isRegular : Value → Bool
  | .obj members =>
    (Members.get? members "nodes").any (Value.isListOf Node.isRegular) &&
      (Members.get? members "connections").all Connections.isRegular &&
      (Members.get? members "id").all Value.isTextOrNull &&
      (Members.get? members "name").all Value.isText &&
      (Members.get? members "active").all Value.isFlag
  | _ => false

/-! ### What the schema admits -/

section Schema

variable {named : String → Value → Bool}

theorem admits_text : Schema.admits [.types [.string]] named = Value.isText := by
  funext v
  cases v <;> rfl

/-- Two types in one schema are alternatives. The writer leaves an absent identifier out and never
writes `null` for it, but the schema allows both. -/
theorem admits_textOrNull : Schema.admits [.types [.string, .null]] named = Value.isTextOrNull := by
  funext v
  cases v <;> rfl

theorem admits_flag : Schema.admits [.types [.boolean]] named = Value.isFlag := by
  funext v
  cases v <;> rfl

/-- The format of a number is a hint to its reader and restricts nothing, whatever it is. -/
theorem admits_numberOrNull (kept : String) :
    Schema.admits [.types [.number, .null], .format kept] named = Value.isNumberOrNull := by
  funext v
  cases v <;> rfl

/-- An object with any members: the keys and values of parameters are free. -/
theorem admits_object :
    Schema.admits [.types [.object], .additionalAny] named = Value.isObject := by
  funext v
  cases v <;> rfl

/-- A minimum is compared in units of the smallest number, in which integers and reals are both
whole. An integer is not below zero there exactly if it is not below zero. -/
theorem signedUnits_int_nonneg_iff (i : Json.Integer) :
    Binary64.zero.signedUnits ≤ (Number.int i).signedUnits ↔ 0 ≤ i.val := by
  have hpos : (0 : Int) < (Nat.pow 2 1074 : Nat) := by decide +kernel
  have hzero : Binary64.zero.signedUnits = 0 := by decide
  rw [hzero, Number.signedUnits]
  exact Int.mul_nonneg_iff_of_pos_right hpos

/-- An index is an integer from zero up. That it is below the bound of 64 bits is no keyword of the
schema; every integer that a value can hold is. -/
theorem admits_index (kept : String) :
    Schema.admits [.types [.integer], .format kept, .minimum .zero] named = Value.isIndex := by
  funext v
  cases v with
  | num n =>
    cases n with
    | int i =>
      change (true && (true && (decide (Binary64.zero.signedUnits ≤ (Number.int i).signedUnits) &&
        true))) = (decide (0 ≤ i.val) && decide (i.val < 18446744073709551616))
      rw [decide_eq_true i.property.2, decide_eq_decide.2 (signedUnits_int_nonneg_iff i),
        Bool.true_and, Bool.true_and]
    | real x => rfl
  | _ => rfl

/-- Between two and two items: a pair of numbers, and not the beginning of a longer list. A reader
of positions takes the first two of any number, and so the schema asks for more than the reader. -/
theorem admits_pair (kept : String) :
    Schema.admits [.types [.array], .items [.types [.number], .format kept], .maxItems 2,
      .minItems 2] named = Value.isPair := by
  have hitem : Schema.admits [.types [.number], .format kept] named = Value.isNumber := by
    funext v
    cases v <;> rfl
  funext v
  cases v with
  | arr items =>
    change (true && (items.all (Schema.admits [.types [.number], .format kept] named) &&
      (decide (items.length ≤ 2) && (decide (2 ≤ items.length) && true)))) = _
    rw [hitem]
    match items with
    | [] => rfl
    | [_] => simp [Value.isPair]
    | [_, _] => simp [Value.isPair]
    | _ :: _ :: _ :: _ => simp [Value.isPair]
  | _ => rfl

/-- A field that is required and has a schema of its own is one that is found and passes a test. The
schema says the two apart, the grammar says them at once. -/
theorem isSome_and_all (found : Option Value) (test : Value → Bool) :
    (found.isSome && found.all test) = found.any test := by
  cases found <;> rfl

/-- The schema of targets is the grammar of targets without the form of an array. -/
theorem Target.admits_schema : Schema.admits Target.schema named = isRegular := by
  funext v
  simp only [Target.schema, Schema.admits_description, Schema.admits_default, Schema.admits_record,
    List.all_cons, List.all_nil, Bool.and_true, admits_text, admits_index]
  cases v with
  | obj members =>
    simp only [Value.asObject?, Option.any_some, isRegular, Value.isObject, isDocument, conforms,
      ← isSome_and_all]
    ac_rfl
  | _ => rfl

/-- The schema of nodes asks for a kind of value in each field, also in those that a reader is
lenient about. -/
theorem Node.admits_schema : Schema.admits Node.schema named = isRegular := by
  funext v
  simp only [Node.schema, Schema.admits_description, Schema.admits_default, Schema.admits_record,
    List.all_cons, List.all_nil, Bool.and_true, admits_text, admits_textOrNull, admits_flag,
    admits_numberOrNull, admits_object, admits_pair]
  cases v with
  | obj members =>
    simp only [Value.asObject?, Option.any_some, isRegular, conforms, ← isSome_and_all]
    ac_rfl
  | _ => rfl

/-- The document itself refers to definitions, and they to none. -/
theorem Workflow.admitsWithin_succ (depth : Nat) :
    Workflow.schema.admitsWithin (depth + 1) = isRegular := by
  have htarget : Workflow.schema.named (depth + 1) "ConnectionTarget" = Target.isRegular :=
    Target.admits_schema
  have hnode : Workflow.schema.named (depth + 1) "Node" = Node.isRegular := Node.admits_schema
  -- from here on only what the two definitions admit matters, not how they are found
  funext v
  change Schema.admits Workflow.schema.schema (Workflow.schema.named (depth + 1)) v = _
  generalize Workflow.schema.named (depth + 1) = named at htarget hnode
  simp only [Workflow.schema, Schema.admits_title, Schema.admits_description,
    Schema.admits_default, Schema.admits_record, List.all_cons, List.all_nil, Bool.and_true,
    Schema.admits_list, Schema.admits_table, Schema.admits_reference, htarget, hnode,
    admits_text, admits_textOrNull, admits_flag]
  cases v with
  | obj members =>
    -- settings have a description only
    have hsettings : (Members.get? members "settings").all (Schema.admits [] named) = true := by
      cases Members.get? members "settings" <;> rfl
    simp only [Value.asObject?, Option.any_some, isRegular, Connections.isRegular,
      ← isSome_and_all, hsettings, Bool.and_true]
    ac_rfl
  | _ => rfl

end Schema

/-- What the schema admits is what is regular. One reference leads from the document to its
definitions and no further, so any bound from one up gives the same. -/
theorem Workflow.admits_schema_iff {v : Value} :
    Workflow.schema.Admits v ↔ isRegular v = true := by
  rw [RootSchema.admits_iff_of_le 1]
  constructor
  · rintro ⟨depth, hdepth, h⟩
    obtain ⟨further, rfl⟩ := Nat.exists_eq_add_of_le' hdepth
    rwa [admitsWithin_succ] at h
  · intro h
    refine ⟨1, Nat.le_refl 1, ?_⟩
    rwa [admitsWithin_succ 0]

/-! ### Regular documents are read -/

theorem Target.isDocument_of_isRegular (v : Value) (h : isRegular v = true) :
    isDocument v = true :=
  (Bool.and_eq_true_iff.1 h).2

/-- Regular connections are connections of the grammar: the two are the same table of lists, and
only what they ask of a target differs. -/
theorem Connections.isDocument_of_isRegular (v : Value) (h : isRegular v = true) :
    isDocument v = true :=
  Value.isTableOf_imp (Value.isTableOf_imp
    (Value.isListOf_imp (Value.isListOf_imp Target.isDocument_of_isRegular))) v h

/-- A regular node has a name and a type. All else that regularity asks of a node is more than the
grammar does. -/
theorem Node.isDocument_of_isRegular (v : Value) (h : isRegular v = true) :
    isDocument v = true := by
  cases v with
  | obj members =>
    simp only [isRegular, Bool.and_eq_true, and_assoc] at h
    exact h.1
  | _ => cases h

/-- **Regular documents are in the grammar**, level by level: the nodes, the connections, and
nothing of the other fields. This is the half of the bounds that is about reading. -/
theorem Workflow.isDocument_of_isRegular (v : Value) (h : isRegular v = true) :
    isDocument v = true := by
  cases v with
  | obj members =>
    simp only [isRegular, Bool.and_eq_true, and_assoc] at h
    obtain ⟨hnodes, hconnections, -⟩ := h
    rw [isDocument, conforms, Bool.and_eq_true, Option.any_eq_true, Option.all_eq_true]
    rw [Option.any_eq_true] at hnodes
    rw [Option.all_eq_true] at hconnections
    obtain ⟨nodes, hfound, hnodes⟩ := hnodes
    refine ⟨⟨nodes, hfound, Value.isListOf_imp Node.isDocument_of_isRegular nodes hnodes⟩, ?_⟩
    exact fun connections hfound =>
      Connections.isDocument_of_isRegular connections (hconnections connections hfound)
  | _ => cases h

/-! ### Written documents are regular -/

/-- A number of 64 bits is written as an integer of its size, which is within the bound of an
index. -/
theorem isIndex_ofUInt64 (n : UInt64) : (Value.ofUInt64 n).isIndex = true := by
  have hlt := n.toNat_lt
  simp only [Value.ofUInt64, Value.isIndex, Bool.and_eq_true, decide_eq_true_eq]
  omega

/-- A number that is not finite has no spelling and is written as `null`. This is where finite
positions are needed. -/
theorem isNumber_ofBinary64 {x : Binary64} (h : x.isFinite = true) :
    (Value.ofBinary64 x).isNumber = true := by
  rw [Value.ofBinary64, dif_pos h]
  rfl

/-- A field that is written only if it has a value is found exactly if it has one, or else where it
stands again further on. -/
theorem Json.Members.get?_optional_append_self (key : String) (value : Option Value)
    (rest : Members) :
    Members.get? (Members.optional key value ++ rest) key = value.or (Members.get? rest key) := by
  cases value with
  | none => rfl
  | some v => exact Members.get?_cons_self key v rest

/-- A field that may be left out does not hide the others. -/
theorem Json.Members.get?_optional_append_of_ne {key other : String} (h : key ≠ other)
    (value : Option Value) (rest : Members) :
    Members.get? (Members.optional key value ++ rest) other = Members.get? rest other := by
  cases value with
  | none => rfl
  | some v => exact Members.get?_cons_of_ne h v rest

/-- A target is written with all of its fields, each of its kind. -/
theorem Target.isRegular_toValue (target : Target) : isRegular target.toValue = true := by
  have hconforms : conforms (some (.str target.node)) (some (.str target.channel))
      (some (.ofUInt64 target.index)) = true := by
    rw [conforms, Option.any_some, Option.all_some, Option.all_some, isIndex_ofUInt64]
    rfl
  rw [isRegular, toValue, isDocument]
  simp only [Members.get?, reduceIte, String.reduceEq, hconforms]
  rfl

/-- A map is written as an object, so a test of what it holds is a test of its members. -/
theorem OrderedMap.isTableOf_toValue {α : Type} {item : α → Value} {test : Value → Bool}
    (m : OrderedMap α) (h : ∀ a, test (item a) = true) :
    Value.isTableOf test (m.toValue item) = true := by
  rw [OrderedMap.toValue, Value.isTableOf, List.all_map, List.all_eq_true]
  exact fun entry _ => h entry.2

/-- A list is written item by item, so a test of what it holds is a test of its items. -/
theorem isListOf_map {α : Type} {item : α → Value} {test : Value → Bool} {as : List α}
    (h : ∀ a ∈ as, test (item a) = true) : Value.isListOf test (.arr (as.map item)) = true := by
  rw [Value.isListOf, List.all_map, List.all_eq_true]
  exact h

/-- Connections of every workflow are regular: their levels are maps and lists, and their leaves are
targets. -/
theorem Connections.isRegular_toValue (connections : Connections) :
    isRegular (Connections.toValue connections) = true := by
  refine OrderedMap.isTableOf_toValue _ fun channels => ?_
  refine OrderedMap.isTableOf_toValue _ fun slots => ?_
  refine isListOf_map fun targets _ => ?_
  exact isListOf_map fun target _ => Target.isRegular_toValue target

theorem all_isTextOrNull_map (id : Option String) :
    (id.map Value.str).all Value.isTextOrNull = true := by
  cases id <;> rfl

/-- A version is written as a number or, if it is not finite, as `null`, and the schema allows
`null` in its place. So versions need not be finite for the written form to be admitted. -/
theorem all_isNumberOrNull_map (version : Option Binary64) :
    (version.map Value.ofBinary64).all Value.isNumberOrNull = true := by
  cases version with
  | none => rfl
  | some x =>
    -- a version that is not finite is written as `null`
    by_cases h : x.isFinite = true
    · rw [Option.map_some, Value.ofBinary64, dif_pos h]
      rfl
    · rw [Option.map_some, Value.ofBinary64, dif_neg h]
      rfl

/-- A node with finite numbers is written as a regular one. Each field is looked up among the
members that are written, and its value is of the kind that the schema asks for. -/
theorem Node.isRegular_toValue {node : Node} (h : node.Expressible) :
    isRegular node.toValue = true := by
  simp [toValue, isRegular, conforms, Members.get?_optional_append_self,
    Members.get?_optional_append_of_ne, Members.get?, all_isTextOrNull_map,
    all_isNumberOrNull_map, Value.isText, Value.isObject, Value.isFlag, Value.isPair,
    isNumber_ofBinary64 h.position.1, isNumber_ofBinary64 h.position.2]

/-- **Written documents are regular.** This is the half of the bounds that is about writing. -/
theorem Workflow.isRegular_toValue {workflow : Workflow}
    (h : ∀ node ∈ workflow.nodes, node.Expressible) : isRegular workflow.toValue = true := by
  have hnodes : Value.isListOf Node.isRegular (.arr (workflow.nodes.map Node.toValue)) = true :=
    isListOf_map fun node hnode => Node.isRegular_toValue (h node hnode)
  have hsettings : Members.get? (Members.optional "settings" workflow.settings) "id" = none := by
    cases workflow.settings <;> simp [Members.optional, Members.get?]
  simp [toValue, isRegular, Members.get?_optional_append_self,
    Members.get?_optional_append_of_ne, Members.get?, all_isTextOrNull_map, hsettings,
    Value.isText, Value.isFlag, hnodes, Connections.isRegular_toValue]

/-! ### Between writing and reading -/

/-- **Schema bounds**: the written form of a workflow with finite numbers is admitted by the
schema, and a value that the schema admits, in which no object has a key twice, is read as a
workflow. -/
theorem Workflow.schema_between_writing_and_reading :
    (∀ workflow : Workflow, (∀ node ∈ workflow.nodes, node.Expressible) →
      Workflow.schema.Admits workflow.toValue) ∧
    ∀ v : Value, v.DistinctKeys → Workflow.schema.Admits v →
      ∃ workflow, Workflow.ofValue v = .ok workflow := by
  constructor
  · intro workflow h
    exact admits_schema_iff.2 (isRegular_toValue h)
  · intro v hkeys h
    exact (exists_ofValue_iff ⟨v, hkeys⟩).2 (isDocument_of_isRegular v (admits_schema_iff.1 h))

/-- A document that the schema admits and that is not written so: fields are left out or stand in
another order, and there is one that no workflow has. -/
def Workflow.sparse : Value :=
  .obj
    [("tags", .arr []), ("id", .null),
      ("nodes", .arr [.obj [("type", .str "set"), ("name", .str "Start"), ("typeVersion", .null)]]),
      ("connections", .obj
        [("Start", .obj [("main", .arr [.arr [.obj [("node", .str "Start")]]])])])]

/-- The schema admits the written form of one workflow and a document of another make, and
the latter is read. -/
theorem Workflow.sparse_between :
    Workflow.schema.Admits twoChannels.toValue ∧ Workflow.schema.Admits sparse ∧
      ∃ workflow, Workflow.ofValue sparse = .ok workflow := by
  have hnodes : ∀ node ∈ twoChannels.nodes, node.Expressible := by
    intro node hnode
    obtain rfl := List.mem_singleton.1 hnode
    refine ⟨fun x hx => ?_, by decide, by decide⟩
    rw [← Option.some.inj hx]
    decide +kernel
  have hkeys : sparse.DistinctKeys := by decide
  have hadmits : Workflow.schema.Admits sparse := ⟨1, by decide⟩
  exact ⟨schema_between_writing_and_reading.1 twoChannels hnodes, hadmits,
    schema_between_writing_and_reading.2 sparse hkeys hadmits⟩

/-- Targets and nodes are admitted in object form only, and a name is a string. -/
example : Workflow.schema.admitsWithin 1 (.obj [("nodes", .arr []), ("name", .null)]) = false ∧
    Workflow.schema.admitsWithin 1
      (.obj [("nodes", .arr [.arr [.null, .str "Start", .str "set"]])]) = false := by decide

end FlowScript
