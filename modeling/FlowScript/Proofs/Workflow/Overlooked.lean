import FlowScript.Proofs.Workflow.Grammar
import Mathlib.Logic.Relation

/-!
# What does not matter in a workflow document

Two documents that differ in the order of keys, in fields that are not known, or in what stands
where a lenient field has the wrong shape are the same workflow. The differences are told as
edits, one at a time and at every level of the document (`Workflow.Edit`). Each is overlooked by
the reader of the record or table in which it happens, and so by the reader of the document
(`Workflow.overlooks_edit`); any number of edits is overlooked after that.

The order of keys does matter inside of parameters and settings, which are kept as they are, and
no edit changes it there.
-/

namespace FlowScript

open Json Decoder

/-! ### Wrong shapes -/

/-- A string or a number, from which an identifier is read. -/
def Lenient.isIdentifier (value : Value) : Bool := value.isText || value.isNumber

/-- An array that begins with two numbers, from which a position is read. -/
def Lenient.isPosition : Value → Bool
  | .arr (x :: y :: _) => x.isNumber && y.isNumber
  | _ => false

/-- The lenient fields of a node, and what a value of the right shape is like. -/
def Node.lenientFields : List (String × (Value → Bool)) :=
  [("id", Lenient.isIdentifier), ("typeVersion", Value.isNumber), ("parameters", Value.isObject),
    ("position", Lenient.isPosition), ("disabled", Value.isFlag)]

/-- The lenient fields of a workflow, and what a value of the right shape is like. -/
def Workflow.lenientFields : List (String × (Value → Bool)) :=
  [("id", Lenient.isIdentifier), ("name", Value.isText), ("active", Value.isFlag)]

namespace Lenient

/-! A value of the wrong shape is read as the default that an absent field has. -/

theorem identifier_eq_none {value : Value} (h : isIdentifier value = false) :
    identifier value = none := by
  cases value with
  | num => cases h
  | str => cases h
  | _ => rfl

theorem text_eq_empty {value : Value} (h : value.isText = false) : text value = "" := by
  cases value with
  | str => cases h
  | _ => rfl

theorem flag_eq_false {value : Value} (h : value.isFlag = false) : flag value = false := by
  cases value with
  | bool => cases h
  | _ => rfl

theorem number_eq_none {value : Value} (h : value.isNumber = false) : number value = none := by
  cases value with
  | num => cases h
  | _ => rfl

theorem members_eq_nil {value : Value} (h : value.isObject = false) : members value = [] := by
  cases value with
  | obj => cases h
  | _ => rfl

theorem position_eq_origin {value : Value} (h : isPosition value = false) :
    position value = (.zero, .zero) := by
  unfold position
  split
  · next x y _ =>
    rw [isPosition, Bool.and_eq_false_iff] at h
    -- one of the two is no number
    rcases h with h | h
    · rw [show x.asBinary64? = none from number_eq_none h]
    · rw [show y.asBinary64? = none from number_eq_none h]
      cases x.asBinary64? <;> rfl
  · rfl

end Lenient

/-! ### Edits -/

/-- An edit to a target. -/
inductive Target.Edit : Value → Value → Prop where
  /-- among its members; no field of a target is lenient -/
  | members {members others : Members}
      (h : RecordEdit (Target.fields.map Field.name) [] members others) :
      Target.Edit (.obj members) (.obj others)

/-- An edit to connections. -/
inductive Connections.Edit : Value → Value → Prop where
  /-- to the order of the sources -/
  | sources {v w : Value} (h : Reordered v w) : Connections.Edit v w
  /-- to the order of the channels of one source -/
  | channels {source : String} {v w : Value} (h : InMember source Reordered v w) :
      Connections.Edit v w
  /-- to a target, in one slot of one channel -/
  | target {source channel : String} {v w : Value}
      (h : InMember source (InMember channel (InItem (InItem Target.Edit))) v w) :
      Connections.Edit v w

/-- An edit to a node. -/
inductive Node.Edit : Value → Value → Prop where
  /-- among its members -/
  | members {members others : Members}
      (h : RecordEdit (Node.fields.map Field.name) Node.lenientFields members others) :
      Node.Edit (.obj members) (.obj others)

/-- An edit to a document. -/
inductive Workflow.Edit : Value → Value → Prop where
  /-- among its members -/
  | members {members others : Members}
      (h : RecordEdit (Workflow.fields.map Field.name) Workflow.lenientFields members others) :
      Workflow.Edit (.obj members) (.obj others)
  /-- to one of its nodes -/
  | node {v w : Value} (h : InMember "nodes" (InItem Node.Edit) v w) : Workflow.Edit v w
  /-- to its connections -/
  | connections {v w : Value} (h : InMember "connections" Connections.Edit v w) : Workflow.Edit v w

/-! ### Every edit is overlooked -/

/-- No field of a target is lenient, so only the order of its members and those that are not known
are overlooked. -/
theorem Target.overlooks_edit : Target.decoder.Overlooks Target.Edit := by
  rintro _ _ target ⟨hedit⟩ hread
  exact overlooks_recordEdit fields_independent (fun _ h => absurd h List.not_mem_nil)
    hedit hread

theorem Connections.overlooks_edit : Connections.decoder.Overlooks Connections.Edit := by
  intro v w connections hedit hread
  cases hedit with
  | sources h => exact overlooks_reordered _ v w connections h hread
  | channels h =>
    exact overlooks_inMember (overlooks_reordered _) _ v w connections h hread
  | target h =>
    have htarget := overlooks_inItem (overlooks_inItem Target.overlooks_edit)
    exact overlooks_inMember (overlooks_inMember htarget _) _ v w connections h hread

/-- The fields of the list are read by readers that make the default of what they cannot use. -/
theorem Node.forgives_lenientFields : ∀ entry ∈ Node.lenientFields,
    ∃ field, field? Node.fields entry.1 = some field ∧
      field.Forgives { name := "", type := "" } entry.2 := by
  simp only [Node.lenientFields, List.forall_mem_cons, List.not_mem_nil, false_implies,
    implies_true, and_true]
  exact ⟨⟨_, rfl, forgives_of_read (fun _ => Lenient.identifier_eq_none) rfl⟩,
    ⟨_, rfl, forgives_of_read (fun _ => Lenient.number_eq_none) rfl⟩,
    ⟨_, rfl, forgives_of_read (fun _ => Lenient.members_eq_nil) rfl⟩,
    ⟨_, rfl, forgives_of_read (fun _ => Lenient.position_eq_origin) rfl⟩,
    ⟨_, rfl, forgives_of_read (fun _ => Lenient.flag_eq_false) rfl⟩⟩

/-- Edits of a node are edits of its members, and its lenient fields are forgiven. -/
theorem Node.overlooks_edit : Node.decoder.Overlooks Node.Edit := by
  rintro _ _ node ⟨hedit⟩ hread
  exact overlooks_recordEdit fields_independent forgives_lenientFields hedit hread

theorem Workflow.forgives_lenientFields : ∀ entry ∈ Workflow.lenientFields,
    ∃ field, field? Workflow.fields entry.1 = some field ∧ field.Forgives { } entry.2 := by
  simp only [Workflow.lenientFields, List.forall_mem_cons, List.not_mem_nil, false_implies,
    implies_true, and_true]
  exact ⟨⟨_, rfl, forgives_of_read (fun _ => Lenient.identifier_eq_none) rfl⟩,
    ⟨_, rfl, forgives_of_read (fun _ => Lenient.text_eq_empty) rfl⟩,
    ⟨_, rfl, forgives_of_read (fun _ => Lenient.flag_eq_false) rfl⟩⟩

/-- **Step.** One edit, at any level of the document. -/
theorem Workflow.overlooks_edit : Workflow.decoder.Overlooks Workflow.Edit := by
  intro v w workflow hedit hread
  cases hedit with
  | members h =>
    exact overlooks_recordEdit fields_independent forgives_lenientFields h hread
  | node h =>
    have hnodes := overlooks_inItem Node.overlooks_edit
    exact overlooks_field rfl (hnodes.map _) v w workflow h hread
  | connections h =>
    exact overlooks_field rfl (Connections.overlooks_edit.map _) v w workflow h hread

/-- **Edits do not matter**: a document that is read as a workflow is read as the same workflow
after any number of edits. -/
theorem Workflow.ofValue_eq_ok_of_edits {v w : Value} {workflow : Workflow}
    (hread : Workflow.ofValue v = .ok workflow) (hedits : Relation.ReflTransGen Edit v w) :
    Workflow.ofValue w = .ok workflow := by
  induction hedits with
  | refl => exact hread
  | tail _ hedit ih =>
    rw [ofValue_eq_ok_iff] at ih ⊢
    exact overlooks_edit _ _ workflow hedit ih

/-- A document with a field that is not known, a name and a position of the wrong shape, and
connections that are out of order. -/
def Workflow.cluttered : Value :=
  .obj
    [("tags", .arr []), ("name", .null),
      ("nodes", .arr [.obj [("type", .str "set"), ("position", .str "left"), ("name", .str "A")]]),
      ("connections", .obj
        [("B", .obj []), ("A", .obj [("main", .arr [.arr [.obj [("node", .str "A")]]])])])]

/-- The same without what does not matter. -/
def Workflow.tidied : Value :=
  .obj
    [("nodes", .arr [.obj [("name", .str "A"), ("type", .str "set")]]),
      ("connections", .obj
        [("A", .obj [("main", .arr [.arr [.obj [("node", .str "A")]]])]), ("B", .obj [])])]

theorem Workflow.cluttered_eq_tidied :
    ∃ workflow, Workflow.ofValue cluttered = .ok workflow ∧
      Relation.ReflTransGen Edit cluttered tidied ∧ Workflow.ofValue tidied = .ok workflow := by
  have hname : ("name", Value.isText) ∈ lenientFields := by simp [lenientFields]
  have hposition : ("position", Lenient.isPosition) ∈ Node.lenientFields := by
    simp [Node.lenientFields]
  have hedits : Relation.ReflTransGen Edit cluttered tidied :=
    .head (.members (.remove _ [] _ (by decide))) <|
    .head (.members (.leaveOut [] _ hname rfl)) <|
    .head (.node (.intro [] _ (.intro [] [] (.members (.leaveOut [_] _ hposition rfl))))) <|
    .head (.node (.intro [] _ (.intro [] [] (.members (.reorder (.swap _ _ [])))))) <|
    .single (.connections (.intro [_] [] (.sources (.intro (by decide) (.swap _ _ [])))))
  exact ⟨_, rfl, hedits, ofValue_eq_ok_of_edits rfl hedits⟩

end FlowScript
