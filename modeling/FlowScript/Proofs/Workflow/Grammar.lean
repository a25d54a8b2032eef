import FlowScript.Proofs.Json.Edits
import FlowScript.Proofs.Json.Shapes
import FlowScript.Proofs.Workflow.RoundTrip

/-!
# The grammar of workflow documents

Which values are workflow documents, told without reading them: `Workflow.isDocument` looks at
the nodes, their names and types, and the connections, and at nothing else. A value is read as a
workflow exactly when it passes (`Workflow.recognizedBy_isDocument`).

A record is written as an object, or as an array of its fields in their order. The conditions on
the fields are the same in both forms, and each form only says where a field is found.
-/

namespace FlowScript

open Json Decoder

/-! ### The grammar -/

/-- What must be found where the fields of a target are. -/
def Target.conforms (node channel index : Option Value) : Bool :=
  node.any Value.isText && channel.all Value.isText && index.all Value.isIndex

/-- A target: an object, or an array of one to three fields. -/
def Target.isDocument : Value → Bool
  | .obj members =>
    conforms (Members.get? members "node") (Members.get? members "type")
      (Members.get? members "index")
  | .arr items =>
    1 ≤ items.length && items.length ≤ 3 && conforms items[0]? items[1]? items[2]?
  | _ => false

/-- Connections: by source and channel, lists of slots, each a list of targets. -/
def Connections.isDocument : Value → Bool :=
  Value.isTableOf (Value.isTableOf (Value.isListOf (Value.isListOf Target.isDocument)))

/-- What must be found where the name and the type of a node are. -/
def Node.conforms (name type : Option Value) : Bool :=
  name.any Value.isText && type.any Value.isText

/-- A node: an object, or an array of three to seven fields. -/
def Node.isDocument : Value → Bool
  | .obj members => conforms (Members.get? members "name") (Members.get? members "type")
  | .arr items => 3 ≤ items.length && items.length ≤ 7 && conforms items[1]? items[2]?
  | _ => false

/-- What must be found where the nodes and the connections of a workflow are. -/
def Workflow.conforms (nodes connections : Option Value) : Bool :=
  nodes.any (Value.isListOf Node.isDocument) && connections.all Connections.isDocument

/-- A workflow: an object, or an array of four to six fields. -/
def Workflow.isDocument : Value → Bool
  | .obj members =>
    conforms (Members.get? members "nodes") (Members.get? members "connections")
  | .arr items => 4 ≤ items.length && items.length ≤ 6 && conforms items[3]? items[4]?
  | _ => false

/-! ### Fields

The fields of each record have different names and set different parts of it. -/

theorem Target.fields_independent : Independent Target.fields := by
  refine ⟨by decide, ?_⟩
  simp only [Target.fields, List.pairwise_cons, List.forall_mem_cons, List.not_mem_nil,
    false_implies, implies_true, and_true, List.Pairwise.nil]
  and_intros <;> exact Field.commutes_of_set fun _ _ _ => rfl

theorem Node.fields_independent : Independent Node.fields := by
  refine ⟨by decide, ?_⟩
  simp only [Node.fields, List.pairwise_cons, List.forall_mem_cons, List.not_mem_nil,
    false_implies, implies_true, and_true, List.Pairwise.nil]
  and_intros <;> exact Field.commutes_of_set fun _ _ _ => rfl

theorem Workflow.fields_independent : Independent Workflow.fields := by
  refine ⟨by decide, ?_⟩
  simp only [Workflow.fields, List.pairwise_cons, List.forall_mem_cons, List.not_mem_nil,
    false_implies, implies_true, and_true, List.Pairwise.nil]
  and_intros <;> exact Field.commutes_of_set fun _ _ _ => rfl

/-! ### Recognition

For each record: what its fields admit is what the grammar asks of them, wherever they are found;
an item that is asked for makes an array as long as the grammar says. -/

theorem lt_length_of_any {items : List Value} {i : Nat} {test : Value → Bool}
    (h : items[i]?.any test = true) : i < items.length := by
  obtain ⟨item, hitem, -⟩ := (Option.any_eq_true ..).1 h
  exact (List.getElem?_eq_some_iff.1 hitem).1

/-- A lower bound that follows from the rest can be said beside it. -/
theorem and_eq_of_imp {low high length : Nat} {rest : Bool} (h : rest = true → low ≤ length) :
    (decide (length ≤ high) && rest) =
      (decide (low ≤ length) && decide (length ≤ high) && rest) := by
  cases rest with
  | false => simp only [Bool.and_false]
  | true => rw [decide_eq_true (h rfl), Bool.true_and]

theorem Target.admits_iff (find : String → Option Document) :
    (∀ field ∈ Target.fields, field.Admits ((find field.name).map Document.value)) ↔
      conforms ((find "node").map Document.value) ((find "type").map Document.value)
        ((find "index").map Document.value) = true := by
  simp only [Target.fields, List.forall_mem_cons, List.not_mem_nil, false_implies, implies_true,
    and_true]
  rw [conforms, Bool.and_eq_true, Bool.and_eq_true, and_assoc]
  exact and_congr (admits_mandatory_iff recognizedBy_text _)
    (and_congr (admits_withDefault_iff recognizedBy_text _)
      (admits_withDefault_iff recognizedBy_index _))

theorem Target.recognizedBy_isDocument : Target.decoder.RecognizedBy Target.isDocument := by
  refine (recognizedBy_record fields_independent
    (fun find => conforms (find "node") (find "type") (find "index")) admits_iff).congr
    fun value => ?_
  cases value with
  | arr items =>
    rw [any_writtenMembers_arr, Members.get?_zip fields_independent.nodup 0 "node" rfl,
      Members.get?_zip fields_independent.nodup 1 "type" rfl,
      Members.get?_zip fields_independent.nodup 2 "index" rfl]
    refine and_eq_of_imp fun h => ?_
    rw [conforms, Bool.and_eq_true, Bool.and_eq_true] at h
    exact lt_length_of_any h.1.1
  | _ => rfl

theorem Connections.recognizedBy_isDocument :
    Connections.decoder.RecognizedBy Connections.isDocument :=
  recognizedBy_table (recognizedBy_table
    (recognizedBy_list (recognizedBy_list Target.recognizedBy_isDocument)))

theorem Node.admits_iff (find : String → Option Document) :
    (∀ field ∈ Node.fields, field.Admits ((find field.name).map Document.value)) ↔
      conforms ((find "name").map Document.value) ((find "type").map Document.value) = true := by
  have hlenient : ∀ {β : Type} {name : String} {read : Value → β} {set : β → Node → Node},
      (Field.withDefault name (any.map read) set).Admits ((find name).map Document.value) :=
    admits_withDefault_of_forall (accepts_lenient _)
  simp only [Node.fields, List.forall_mem_cons, List.not_mem_nil, false_implies, implies_true,
    and_true]
  rw [conforms, Bool.and_eq_true]
  constructor
  · rintro ⟨-, hname, htype, -⟩
    exact ⟨(admits_mandatory_iff recognizedBy_text _).1 hname,
      (admits_mandatory_iff recognizedBy_text _).1 htype⟩
  · rintro ⟨hname, htype⟩
    exact ⟨hlenient, (admits_mandatory_iff recognizedBy_text _).2 hname,
      (admits_mandatory_iff recognizedBy_text _).2 htype, hlenient, hlenient, hlenient,
      hlenient⟩

theorem Node.recognizedBy_isDocument : Node.decoder.RecognizedBy Node.isDocument := by
  refine (recognizedBy_record fields_independent (fun find => conforms (find "name") (find "type"))
    admits_iff).congr fun value => ?_
  cases value with
  | arr items =>
    rw [any_writtenMembers_arr, Members.get?_zip fields_independent.nodup 1 "name" rfl,
      Members.get?_zip fields_independent.nodup 2 "type" rfl]
    refine and_eq_of_imp fun h => ?_
    rw [conforms, Bool.and_eq_true] at h
    exact lt_length_of_any h.2
  | _ => rfl

theorem Workflow.admits_iff (find : String → Option Document) :
    (∀ field ∈ Workflow.fields, field.Admits ((find field.name).map Document.value)) ↔
      conforms ((find "nodes").map Document.value) ((find "connections").map Document.value) =
        true := by
  have hlenient : ∀ {β : Type} {name : String} {read : Value → β} {set : β → Workflow → Workflow},
      (Field.withDefault name (any.map read) set).Admits ((find name).map Document.value) :=
    admits_withDefault_of_forall (accepts_lenient _)
  have hsettings : ∀ value, (Decoder.optional any).Accepts value := by
    intro value
    cases value <;> exact ⟨_, rfl⟩
  have hnodes := recognizedBy_list Node.recognizedBy_isDocument
  simp only [Workflow.fields, List.forall_mem_cons, List.not_mem_nil, false_implies, implies_true,
    and_true]
  rw [conforms, Bool.and_eq_true]
  constructor
  · rintro ⟨-, -, -, hown, hconnections, -⟩
    exact ⟨(admits_mandatory_iff hnodes _).1 hown,
      (admits_withDefault_iff Connections.recognizedBy_isDocument _).1 hconnections⟩
  · rintro ⟨hown, hconnections⟩
    exact ⟨hlenient, hlenient, hlenient, (admits_mandatory_iff hnodes _).2 hown,
      (admits_withDefault_iff Connections.recognizedBy_isDocument _).2 hconnections,
      admits_withDefault_of_forall hsettings⟩

theorem Workflow.recognizedBy_isDocument : Workflow.decoder.RecognizedBy Workflow.isDocument := by
  refine (recognizedBy_record fields_independent
    (fun find => conforms (find "nodes") (find "connections")) admits_iff).congr fun value => ?_
  cases value with
  | arr items =>
    rw [any_writtenMembers_arr, Members.get?_zip fields_independent.nodup 3 "nodes" rfl,
      Members.get?_zip fields_independent.nodup 4 "connections" rfl]
    refine and_eq_of_imp fun h => ?_
    rw [conforms, Bool.and_eq_true] at h
    exact lt_length_of_any h.1
  | _ => rfl

/-! ### Lenient fields

The grammar does not look at most fields, and so nothing that stands there makes a document
fail. -/

/-- Two documents differ in the value of one lenient field, of the workflow or of a node. -/
inductive Workflow.LenientChange : Value → Value → Prop where
  /-- in a field of the workflow -/
  | own {key : String} {v w : Value} (hkey : key ∈ ["id", "name", "active", "settings"])
      (h : InField (Workflow.fields.map Field.name) key (fun _ _ => True) v w) : LenientChange v w
  /-- in a field of a node -/
  | node {key : String} {v w : Value}
      (hkey : key ∈ ["id", "typeVersion", "parameters", "position", "disabled"])
      (h : InField (Workflow.fields.map Field.name) "nodes"
        (InItem (InField (Node.fields.map Field.name) key fun _ _ => True)) v w) :
      LenientChange v w

theorem getElem?_middle_of_ne {front back : List Value} {v w : Value} {i : Nat}
    (h : i ≠ front.length) : (front ++ v :: back)[i]? = (front ++ w :: back)[i]? := by
  rcases Nat.lt_or_gt_of_ne h with hlt | hgt
  · rw [List.getElem?_append_left hlt, List.getElem?_append_left hlt]
  · rw [List.getElem?_append_right (Nat.le_of_lt hgt),
      List.getElem?_append_right (Nat.le_of_lt hgt)]
    obtain ⟨n, hn⟩ := Nat.exists_eq_add_of_lt hgt
    rw [show i - front.length = n + 1 by omega]
    rfl

/-- A field stands in its own place only. -/
theorem ne_length_of_place {names : List String} {key other : String} {i n : Nat}
    (hplace : names[n]? = some key) (hother : names[i]? = some other) (hne : key ≠ other) :
    i ≠ n := by
  rintro rfl
  rw [hplace] at hother
  exact hne (Option.some.inj hother)

/-- Only name and type decide about a node, so a change in any other field decides nothing. -/
theorem Node.isDocument_eq_of_change {key : String} {change : Value → Value → Prop} {v w : Value}
    (hname : key ≠ "name") (htype : key ≠ "type")
    (h : InField (Node.fields.map Field.name) key change v w) : isDocument v = isDocument w := by
  cases h with
  | member h =>
    obtain ⟨front, back, -⟩ := h
    simp only [isDocument, Members.get?_middle_of_ne hname, Members.get?_middle_of_ne htype]
  | @item v w front back hplace =>
    have hfirst : (front ++ v :: back)[1]? = (front ++ w :: back)[1]? :=
      getElem?_middle_of_ne (ne_length_of_place hplace rfl hname)
    have hsecond : (front ++ v :: back)[2]? = (front ++ w :: back)[2]? :=
      getElem?_middle_of_ne (ne_length_of_place hplace rfl htype)
    simp only [isDocument, List.length_append, List.length_cons, hfirst, hsecond]

/-- A change outside the connections, and inside the nodes only where the grammar does not see
it, does not matter. -/
theorem Workflow.isDocument_eq_of_change {key : String} {change : Value → Value → Prop}
    {v w : Value} (hconnections : key ≠ "connections")
    (hnodes : key = "nodes" → ∀ v w, change v w →
      Value.isListOf Node.isDocument v = Value.isListOf Node.isDocument w)
    (h : InField (Workflow.fields.map Field.name) key change v w) :
    isDocument v = isDocument w := by
  cases h with
  | member h =>
    obtain ⟨front, back, hchange⟩ := h
    simp only [isDocument, Members.get?_middle_of_ne hconnections]
    by_cases hkey : key = "nodes"
    · subst hkey
      simp only [Members.get?_append, Members.get?_cons_self]
      cases Members.get? front "nodes" with
      | none => simp only [conforms, Option.none_or, Option.any_some, hnodes rfl _ _ hchange]
      | some => rfl
    · rw [Members.get?_middle_of_ne hkey, Members.get?_middle_of_ne hkey]
  | @item v w front back hplace hchange =>
    have hlast : (front ++ v :: back)[4]? = (front ++ w :: back)[4]? :=
      getElem?_middle_of_ne (ne_length_of_place hplace rfl hconnections)
    have hthird : (front ++ v :: back)[3]?.any (Value.isListOf Node.isDocument) =
        (front ++ w :: back)[3]?.any (Value.isListOf Node.isDocument) := by
      by_cases hlength : 3 = front.length
      · have hkey : key = "nodes" := by
          rw [← hlength] at hplace
          exact (Option.some.inj hplace).symm
        rw [hlength, List.getElem?_append_right (Nat.le_refl _),
          List.getElem?_append_right (Nat.le_refl _), Nat.sub_self]
        exact hnodes hkey v w hchange
      · rw [getElem?_middle_of_ne hlength]
    simp only [isDocument, conforms, List.length_append, List.length_cons, hlast, hthird]

/-- Whether a value has the shape of a workflow does not depend on what a lenient change touches. -/
theorem Workflow.LenientChange.isDocument_eq {v w : Value} (h : LenientChange v w) :
    isDocument v = isDocument w := by
  cases h with
  | own hkey h =>
    refine isDocument_eq_of_change (ne_of_mem_of_not_mem hkey (by decide)) ?_ h
    intro hnodes
    exact absurd hnodes (ne_of_mem_of_not_mem hkey (by decide))
  | @node key _ _ hkey h =>
    have hname : key ≠ "name" := ne_of_mem_of_not_mem hkey (by decide)
    have htype : key ≠ "type" := ne_of_mem_of_not_mem hkey (by decide)
    refine isDocument_eq_of_change (by decide) ?_ h
    rintro - _ _ ⟨front, back, hchange⟩
    simp only [Value.isListOf, List.all_append, List.all_cons,
      Node.isDocument_eq_of_change hname htype hchange]

/-! ### Whole documents -/

/-- **The grammar is exact**: a document is accepted exactly if the test of its shape succeeds. -/
theorem Workflow.exists_ofValue_iff (document : Document) :
    (∃ workflow, Workflow.ofValue document.value = .ok workflow) ↔
      isDocument document.value = true := by
  simp only [Workflow.ofValue_eq_ok_iff]
  exact recognizedBy_isDocument document

/-- **Grammar**: a value in which no object has a key twice is read as a workflow exactly when it
is in the grammar. Changing a lenient field of an accepted document, to whatever value, gives an
accepted document. -/
theorem Workflow.ofValue_succeeds_iff_isDocument (v : Value) (hkeys : v.DistinctKeys) :
    ((∃ workflow, Workflow.ofValue v = .ok workflow) ↔ isDocument v = true) ∧
      ∀ w : Value, w.DistinctKeys → LenientChange v w →
        (∃ workflow, Workflow.ofValue v = .ok workflow) →
          ∃ workflow, Workflow.ofValue w = .ok workflow := by
  refine ⟨exists_ofValue_iff ⟨v, hkeys⟩, fun w hw hchange hread => ?_⟩
  have hdocument := (exists_ofValue_iff ⟨v, hkeys⟩).1 hread
  exact (exists_ofValue_iff ⟨w, hw⟩).2 (hchange.isDocument_eq.symm.trans hdocument)

/-- A document in array form, with a node in either form and a target in array form; its second
node has the given position. -/
def Workflow.terse (position : Value) : Value :=
  .arr
    [.null, .bool true, .str "yes",
      .arr
        [.arr [.obj [], .str "Start", .str "set"],
          .obj [("type", .str "set"), ("position", position), ("name", .str "End")]],
      .obj [("Start", .obj [("main", .arr [.arr [.arr [.str "End"]]])])]]

theorem Workflow.terse_succeeds :
    (terse (.str "nowhere")).DistinctKeys ∧ (terse .null).DistinctKeys ∧
      LenientChange (terse (.str "nowhere")) (terse .null) ∧
      (∃ workflow, Workflow.ofValue (terse (.str "nowhere")) = .ok workflow) ∧
      ∃ workflow, Workflow.ofValue (terse .null) = .ok workflow := by
  have hkeys : (terse (.str "nowhere")).DistinctKeys := by decide
  have hkeys' : (terse .null).DistinctKeys := by decide
  have hplace : InField (Node.fields.map Field.name) "position" (fun _ _ => True)
      (.obj [("type", .str "set"), ("position", .str "nowhere"), ("name", .str "End")])
      (.obj [("type", .str "set"), ("position", .null), ("name", .str "End")]) :=
    .member (.intro [("type", .str "set")] [("name", .str "End")] trivial)
  have hchange : LenientChange (terse (.str "nowhere")) (terse .null) :=
    .node (by decide) (.item [.null, .bool true, .str "yes"] _ rfl
      (.intro [.arr [.obj [], .str "Start", .str "set"]] [] hplace))
  have hread := (ofValue_succeeds_iff_isDocument _ hkeys).1.2 (by decide)
  exact ⟨hkeys, hkeys', hchange, hread,
    (ofValue_succeeds_iff_isDocument _ hkeys).2 _ hkeys' hchange hread⟩

end FlowScript
