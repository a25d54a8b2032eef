import FlowScript.Proofs.Json.Agreement
import FlowScript.Proofs.Workflow.RoundTrip

/-!
# Workflows from text and from values

A document is read from its text as it is read from its value: the same documents are
workflows, and they are the same workflows. Every shape in a workflow document is built
from shapes whose two readings agree, so the readings of the whole agree
(`Workflow.decoder_agrees`).
-/

namespace FlowScript

open Json Decoder

theorem Target.decoder_agrees : Target.decoder.Agrees := by
  refine record_agrees _ (fun field hfield => ?_) _
  simp only [Target.fields, List.mem_cons, List.not_mem_nil, or_false] at hfield
  rcases hfield with rfl | rfl | rfl
  · exact (stringAs_agrees _ _).map _
  · exact (stringAs_agrees _ _).map _
  · exact (scalar_agrees _ _).map _

theorem Connections.decoder_agrees : Connections.decoder.Agrees :=
  table_agrees (table_agrees (list_agrees (list_agrees Target.decoder_agrees)) _ _) _ _

/-- A field that takes whatever it finds. -/
theorem lenient_agrees {α β : Type} (read : Value → β) (set : β → α → α) :
    ((any.map read).map set).Agrees :=
  (any_agrees.map read).map set

theorem Node.decoder_agrees : Node.decoder.Agrees := by
  refine record_agrees _ (fun field hfield => ?_) _
  simp only [Node.fields, List.mem_cons, List.not_mem_nil, or_false] at hfield
  rcases hfield with rfl | rfl | rfl | rfl | rfl | rfl | rfl
  · exact lenient_agrees _ _
  · exact (stringAs_agrees _ _).map _
  · exact (stringAs_agrees _ _).map _
  · exact lenient_agrees _ _
  · exact lenient_agrees _ _
  · exact lenient_agrees _ _
  · exact lenient_agrees _ _

theorem Workflow.decoder_agrees : Workflow.decoder.Agrees := by
  refine record_agrees _ (fun field hfield => ?_) _
  simp only [Workflow.fields, List.mem_cons, List.not_mem_nil, or_false] at hfield
  rcases hfield with rfl | rfl | rfl | rfl | rfl | rfl
  · exact lenient_agrees _ _
  · exact lenient_agrees _ _
  · exact lenient_agrees _ _
  · exact (list_agrees Node.decoder_agrees).map _
  · exact Connections.decoder_agrees.map _
  · exact (optional_agrees any_agrees).map _

theorem Workflow.ofText_eq_ok_iff {text : String} {workflow : Workflow} :
    Workflow.ofText text = .ok workflow ↔
      Workflow.decoder.parse (Source.ofString text) = .ok workflow := by
  rw [Workflow.ofText, mapError_eq_ok_iff]

/-- **Text and value agree**: of a value within the depth limit, in which no object has a
key twice and the real numbers read back, the compact text is read as a workflow exactly
when the value is, and as the same workflow. -/
theorem Workflow.ofText_text_eq_ok_iff (v : Value) (hdepth : v.depth ≤ 127)
    (hkeys : v.DistinctKeys)
    (hreals : ∀ x, .num (.real x) ∈ v.parts → (Number.real x).ReadsBack) (workflow : Workflow) :
    Workflow.ofText v.text = .ok workflow ↔ Workflow.ofValue v = .ok workflow := by
  rw [Workflow.ofText_eq_ok_iff, Workflow.ofValue_eq_ok_iff, v.ofString_text]
  exact Workflow.decoder_agrees.parse_eq_ok_iff (Value.plain_of hkeys hreals) hdepth workflow

/-- One and a half, whose text is read back. -/
def Workflow.oneAndAHalf : Json.Real := ⟨⟨0x3FF8000000000000⟩, by decide +kernel⟩

/-- A document with a node in either form, a field that is not known, a field of another
type than it should have, escapes and a real number. -/
def Workflow.mixedForms : Value :=
  .obj
    [("extra", .arr [.null, .obj [("k", .num (.real oneAndAHalf))]]),
      ("name", .str "a\"\n"),
      ("nodes", .arr
        [.arr [.num (.int ⟨7, by decide⟩), .str "Start", .str "set", .num (.real oneAndAHalf)],
          .obj [("type", .str "set"), ("name", .str "Next"), ("disabled", .str "no")]]),
      ("connections",
        .obj [("Start", .obj [("main", .arr [.arr [.obj [("node", .str "Next")]]])])])]

theorem Workflow.oneAndAHalf_readsBack : (Number.real oneAndAHalf).ReadsBack := by
  have htext : oneAndAHalf.val.text = ['1', '.', '5'] := by decide +kernel
  have hread : readNumber false (oneAndAHalf.val.text.map some) = .ok (.real oneAndAHalf, []) := by
    decide +kernel
  change readScalar (oneAndAHalf.val.text.map some) = _
  rw [htext] at hread ⊢
  rw [List.map_cons, readScalar_digit (by decide), ← List.map_cons, hread]
  rfl

theorem Workflow.mixedForms_read_alike :
    mixedForms.depth ≤ 127 ∧ mixedForms.DistinctKeys ∧
      (∀ x, .num (.real x) ∈ mixedForms.parts → (Number.real x).ReadsBack) ∧
      ∃ workflow, Workflow.ofValue mixedForms = .ok workflow ∧
        Workflow.ofText mixedForms.text = .ok workflow ∧
        workflow.nodes.map Node.name = ["Start", "Next"] := by
  have hdepth : mixedForms.depth ≤ 127 := by decide
  have hkeys : mixedForms.DistinctKeys := by
    intro members hmembers
    simp only [mixedForms, Value.parts, Value.membersParts, Value.itemsParts, List.append_nil,
      List.cons_append, List.nil_append, List.mem_cons, Value.obj.injEq, reduceCtorEq,
      List.not_mem_nil, or_self, or_false, false_or] at hmembers
    rcases hmembers with rfl | rfl | rfl | rfl | rfl | rfl | rfl <;> decide
  have hreals : ∀ x, .num (.real x) ∈ mixedForms.parts → (Number.real x).ReadsBack := by
    intro x hx
    simp only [mixedForms, Value.parts, Value.membersParts, Value.itemsParts, List.append_nil,
      List.cons_append, List.nil_append, List.mem_cons, reduceCtorEq, Value.num.injEq,
      Number.real.injEq, List.not_mem_nil, or_self, or_false, false_or] at hx
    rw [hx]
    exact oneAndAHalf_readsBack
  refine ⟨hdepth, hkeys, hreals, _, rfl, ?_, rfl⟩
  exact (Workflow.ofText_text_eq_ok_iff mixedForms hdepth hkeys hreals _).2 rfl

end FlowScript
