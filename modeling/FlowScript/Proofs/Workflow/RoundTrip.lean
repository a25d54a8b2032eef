import FlowScript.Proofs.Json.Record
import FlowScript.Proofs.Number.Finite
import FlowScript.Workflow.Decoding

/-!
# Workflows are read back from their written form

The writer and the reader of workflow documents are separate lists of fields. They fit
each other: a workflow that its written form can express is read back from it, field by
field (`Workflow.decoder_toValue`). The written form cannot express two things, settings
that are `null` and numbers that are not finite, and neither ever comes out of a document
(`Workflow.expressible_of_decoder`).
-/

namespace FlowScript

open Json Json.Decoder

/-- The numbers of a node have a spelling. -/
structure Node.Expressible (node : Node) : Prop where
  /-- the version is finite -/
  typeVersion : ∀ x, node.typeVersion = some x → x.isFinite = true
  /-- both coordinates are finite -/
  position : node.position.1.isFinite = true ∧ node.position.2.isFinite = true

/-- The written form of the workflow tells all of it. -/
structure Workflow.Expressible (workflow : Workflow) : Prop where
  /-- settings that are `null` would be taken for none -/
  settings : workflow.settings ≠ some .null
  /-- the numbers of all nodes have a spelling -/
  nodes : ∀ node ∈ workflow.nodes, node.Expressible

/-! ### Reading back -/

theorem index_ofUInt64 (n : UInt64) : Decoder.index.ofValue (.ofUInt64 n) = .ok n := by
  have hnonneg : (0 : Int) ≤ n.toNat := by omega
  simp only [Decoder.index, scalar, Value.ofUInt64, if_pos hnonneg, Int.toNat_natCast,
    UInt64.ofNat_toNat]

/-- An identifier is written as a string, and not at all when there is none. -/
theorem identifier_of_map {id : Option String} {value : Value}
    (h : id.map Value.str = some value) :
    (Decoder.any.map Lenient.identifier).ofValue value = .ok id := by
  obtain ⟨s, rfl, rfl⟩ := Option.map_eq_some_iff.1 h
  rfl

/-- A finite number survives being written and read; infinities and non-numbers are written as
null. -/
theorem asBinary64?_ofBinary64 {x : Binary64} (h : x.isFinite = true) :
    (Value.ofBinary64 x).asBinary64? = some x := by
  rw [Value.ofBinary64, dif_pos h]
  rfl

/-- A target is read back from its value, with no condition: its index is a natural number, and
those are written as they are. -/
theorem Target.decoder_toValue (target : Target) :
    Target.decoder.ofValue target.toValue = .ok target := by
  apply record_of_spells (by decide)
  exact .set rfl (.set rfl (.set (index_ofUInt64 target.index) (.done _)))

theorem Connections.decoder_toValue (connections : Connections) :
    Connections.decoder.ofValue (Connections.toValue connections) = .ok connections := by
  apply table_toValue
  intro entry _
  apply table_toValue
  intro slots _
  apply list_map
  intro slot _
  apply list_map
  intro target _
  exact Target.decoder_toValue target

/-- A node is read back if its version and its position are finite. All else in it can be
written. -/
theorem Node.decoder_toValue {node : Node} (h : node.Expressible) :
    Node.decoder.ofValue node.toValue = .ok node := by
  obtain ⟨id, name, type, version, parameters, position, disabled⟩ := node
  have hversion : ∀ value, version.map Value.ofBinary64 = some value →
      (Decoder.any.map Lenient.number).ofValue value = .ok version := by
    intro value hvalue
    obtain ⟨x, rfl, rfl⟩ := Option.map_eq_some_iff.1 hvalue
    exact congrArg Except.ok (asBinary64?_ofBinary64 (h.typeVersion x rfl))
  have hposition : (Decoder.any.map Lenient.position).ofValue
      (.arr [.ofBinary64 position.1, .ofBinary64 position.2]) = .ok position := by
    change Except.ok (Lenient.position _) = _
    rw [Lenient.position, asBinary64?_ofBinary64 h.position.1, asBinary64?_ofBinary64 h.position.2]
  apply record_of_spells (by decide)
  simp only [List.append_assoc]
  refine .setOptional (fun _ => identifier_of_map) ?_ (.set rfl (.set rfl (.setOptional hversion ?_
    (.set rfl (.set hposition (.set rfl (.done _)))))))
  · intro hnone
    rw [Option.map_eq_none_iff.1 hnone]
  · intro hnone
    rw [Option.map_eq_none_iff.1 hnone]

/-- A workflow that its written form can express is read back from it. -/
theorem Workflow.decoder_toValue {workflow : Workflow} (h : workflow.Expressible) :
    Workflow.decoder.ofValue workflow.toValue = .ok workflow := by
  obtain ⟨id, name, active, nodes, connections, settings⟩ := workflow
  have hnodes : (Decoder.list Node.decoder).ofValue (.arr (nodes.map Node.toValue)) = .ok nodes :=
    list_map fun node hnode => Node.decoder_toValue (h.nodes node hnode)
  have hsettings : ∀ value, settings = some value →
      (Decoder.optional .any).ofValue value = .ok settings := by
    rintro value rfl
    cases value with
    | null => exact absurd rfl h.settings
    | _ => rfl
  apply record_of_spells (by decide)
  simp only [List.append_assoc]
  refine .setOptional (fun _ => identifier_of_map) ?_ (.set rfl (.set rfl (.set hnodes
    (.set (Connections.decoder_toValue connections) ?_))))
  · intro hnone
    rw [Option.map_eq_none_iff.1 hnone]
  · rw [← List.append_nil (Members.optional _ _)]
    refine .setOptional hsettings ?_ (.done _)
    rintro rfl
    rfl

/-! ### What documents can say -/

/-- No value is read as an infinity: the numbers of values are finite. -/
theorem isFinite_of_asBinary64? {value : Value} {x : Binary64} (h : value.asBinary64? = some x) :
    x.isFinite = true := by
  cases value with
  | num n =>
    rw [← Option.some.inj h]
    exact n.isFinite_toBinary64
  | _ => cases h

theorem isFinite_position (value : Value) :
    (Lenient.position value).1.isFinite = true ∧ (Lenient.position value).2.isFinite = true := by
  have horigin : Binary64.zero.isFinite = true := Binary64.isFinite_zero
  unfold Lenient.position
  split
  · split
    · next hx hy => exact ⟨isFinite_of_asBinary64? hx, isFinite_of_asBinary64? hy⟩
    · exact ⟨horigin, horigin⟩
  · exact ⟨horigin, horigin⟩

/-- So whatever was read can be written and read again. -/
theorem Node.expressible_of_decoder {value : Value} {node : Node}
    (h : Node.decoder.ofValue value = .ok node) : node.Expressible := by
  have hdefaults : ({ name := "", type := "" } : Node).Expressible :=
    ⟨fun _ h => (by cases h), Binary64.isFinite_zero, Binary64.isFinite_zero⟩
  refine record_keeps ?_ hdefaults h
  intro field hfield
  simp only [Node.fields, List.mem_cons, List.not_mem_nil, or_false] at hfield
  rcases hfield with rfl | rfl | rfl | rfl | rfl | rfl | rfl
  · exact Field.keeps_of_set fun _ _ hnode => ⟨hnode.typeVersion, hnode.position⟩
  · exact Field.keeps_of_set fun _ _ hnode => ⟨hnode.typeVersion, hnode.position⟩
  · exact Field.keeps_of_set fun _ _ hnode => ⟨hnode.typeVersion, hnode.position⟩
  · refine Field.keeps_of (Q := fun version => ∀ x, version = some x → x.isFinite = true) ?_ ?_
    · rintro value version hversion x rfl
      exact isFinite_of_asBinary64? (Except.ok.inj hversion)
    · exact fun _ _ hversion hnode => ⟨hversion, hnode.position⟩
  · exact Field.keeps_of_set fun _ _ hnode => ⟨hnode.typeVersion, hnode.position⟩
  · refine Field.keeps_of
      (Q := fun position => position.1.isFinite = true ∧ position.2.isFinite = true) ?_ ?_
    · intro value position hposition
      rw [← Except.ok.inj hposition]
      exact isFinite_position value
    · exact fun _ _ hposition hnode => ⟨hnode.typeVersion, hposition⟩
  · exact Field.keeps_of_set fun _ _ hnode => ⟨hnode.typeVersion, hnode.position⟩

/-- An optional value that is null is read as a missing one, so null never is what settings hold. -/
theorem optional_ne_null {value : Value} {settings : Option Value}
    (h : (Decoder.optional .any).ofValue value = .ok settings) : settings ≠ some .null := by
  rintro rfl
  cases value with
  | null => cases h
  | _ => cases h

/-- What is read from a document can be expressed by one. -/
theorem Workflow.expressible_of_decoder {value : Value} {workflow : Workflow}
    (h : Workflow.decoder.ofValue value = .ok workflow) : workflow.Expressible := by
  have hdefaults : ({ } : Workflow).Expressible :=
    ⟨fun h => (by cases h), fun _ h => absurd h List.not_mem_nil⟩
  refine record_keeps ?_ hdefaults h
  intro field hfield
  simp only [Workflow.fields, List.mem_cons, List.not_mem_nil, or_false] at hfield
  rcases hfield with rfl | rfl | rfl | rfl | rfl | rfl
  · exact Field.keeps_of_set fun _ _ hworkflow => ⟨hworkflow.settings, hworkflow.nodes⟩
  · exact Field.keeps_of_set fun _ _ hworkflow => ⟨hworkflow.settings, hworkflow.nodes⟩
  · exact Field.keeps_of_set fun _ _ hworkflow => ⟨hworkflow.settings, hworkflow.nodes⟩
  · refine Field.keeps_of
      (fun _ _ hnodes => forall_of_list (fun _ _ h => Node.expressible_of_decoder h) hnodes) ?_
    exact fun _ _ hnodes hworkflow => ⟨hworkflow.settings, hnodes⟩
  · exact Field.keeps_of_set fun _ _ hworkflow => ⟨hworkflow.settings, hworkflow.nodes⟩
  · refine Field.keeps_of (fun _ _ hsettings => optional_ne_null hsettings) ?_
    exact fun _ _ hsettings hworkflow => ⟨hsettings, hworkflow.nodes⟩

/-! ### Whole documents -/

theorem Workflow.ofValue_eq_ok_iff {value : Value} {workflow : Workflow} :
    Workflow.ofValue value = .ok workflow ↔ Workflow.decoder.ofValue value = .ok workflow := by
  rw [Workflow.ofValue, decode, mapError_eq_ok_iff]

/-- **Round trip**: a workflow without `null` settings and with finite numbers is read back
from its written form, every workflow that is read is of this kind, and so what was read
once is read again from its written form. -/
theorem Workflow.ofValue_toValue_round_trip :
    (∀ workflow : Workflow, workflow.Expressible →
      Workflow.ofValue workflow.toValue = .ok workflow) ∧
    (∀ value workflow, Workflow.ofValue value = .ok workflow → workflow.Expressible) ∧
    ∀ value workflow, Workflow.ofValue value = .ok workflow →
      Workflow.ofValue workflow.toValue = .ok workflow := by
  have hback : ∀ workflow : Workflow, workflow.Expressible →
      Workflow.ofValue workflow.toValue = .ok workflow :=
    fun workflow h => ofValue_eq_ok_iff.2 (decoder_toValue h)
  have hread : ∀ value workflow, Workflow.ofValue value = .ok workflow → workflow.Expressible :=
    fun value workflow h => expressible_of_decoder (ofValue_eq_ok_iff.1 h)
  exact ⟨hback, hread, fun value workflow h => hback workflow (hread value workflow h)⟩

/-- A workflow with an identifier, a version, parameters and connections out of two
channels. -/
def Workflow.twoChannels : Workflow where
  id := some "7"
  nodes :=
    [{ name := "Split", type := "set", typeVersion := some (.ofNat 2),
       parameters := [("z", .null), ("a", .arr [])] }]
  connections := OrderedMap.empty.insert "Split"
    ((OrderedMap.empty.insert "main" [[{ node := "Split" }], []]).insert "error"
      [[{ node := "End", channel := "main", index := 3 }]])
  settings := some (.obj [])

theorem Workflow.twoChannels_read_back :
    twoChannels.Expressible ∧ Workflow.ofValue twoChannels.toValue = .ok twoChannels := by
  have h : twoChannels.Expressible := by
    refine ⟨fun h => (by cases h), fun node hnode => ?_⟩
    obtain rfl := List.mem_singleton.1 hnode
    refine ⟨fun x hx => ?_, by decide, by decide⟩
    rw [← Option.some.inj hx]
    decide +kernel
  exact ⟨h, ofValue_toValue_round_trip.1 twoChannels h⟩

end FlowScript
