import FlowScript.Proofs.Json.Text.Skipping
import FlowScript.Proofs.Json.Text.Visible
import FlowScript.Proofs.Script.Identifier
import FlowScript.Proofs.Script.Layout
import Mathlib.Data.List.Forall2

/-!
# Constants hold their values

A set node declares a constant for each of its entries that has a name, in their order. What a
constant is said to be is a literal of the stored value (`LiteralOf`): whoever reads the literal has
the value again, and whoever passes over it is at the semicolon, whatever strings are in the value
and whatever is behind. Real numbers are the exception to the first, but not to the second: they are
passed over, but not all of them are known to be read as they were.

Neither the identifier nor the literal has a line feed, so a declaration is one line of the program
(`Declares.linesOf`), and the block of a set node has one for each named entry and no other
(`Workflow.constants_hold_their_values`).
-/

namespace FlowScript

open Json Text

/-! ### Literals -/

/-- A text that stands for a value. -/
structure LiteralOf (v : Value) (literal : String) : Prop where
  /-- nothing in it is below the space -/
  visible : Visible literal.toList
  /-- it ends before the semicolon -/
  ends : ∀ behind : String, skipValue (Source.ofString (literal ++ ";" ++ behind)) =
    .ok (Source.ofString (";" ++ behind))
  /-- it reads as the value, with all members in their order; integers read back always -/
  reads : v.DistinctKeys → (∀ x, .num (.real x) ∈ v.parts → (Number.real x).ReadsBack) →
    ∀ depth, v.depth ≤ depth → readDocument (readValue depth) (Source.ofString literal) = .ok v

theorem ofString_append (a b : String) :
    Source.ofString (a ++ b) = Source.ofString a ++ Source.ofString b := by
  simp [Source.ofString]

/-- A reader of whole documents accepts the text of a value and nothing behind it. -/
theorem readDocument_source {v : Value} (hplain : v.Plain) {depth : Nat}
    (hdepth : v.depth ≤ depth) :
    readDocument (readValue depth) v.source = .ok v := by
  have hread := readValue_follows depth hplain hdepth [] closes_nil
  rw [List.append_nil] at hread
  rw [readDocument, show readValue depth v.source = .ok (v, []) from hread]
  rfl

/-- The text of a value is a literal of it: in one line, passed over by a reader of values, and read
back if its numbers are. -/
theorem literalOf_text (v : Value) : LiteralOf v v.text where
  visible := v.visible_text
  ends behind := by
    rw [String.append_assoc, ofString_append, v.ofString_text]
    refine skipValue_source v ?_
    rw [ofString_append]
    exact closes_cons (by decide) _
  reads hkeys hreals depth hdepth := by
    rw [v.ofString_text]
    exact readDocument_source (Value.plain_of hkeys hreals) hdepth

/-! ### Declarations -/

/-- The entries of a set node, if they are an array. -/
def Node.entries (node : Node) : List Value :=
  match Members.get? node.parameters "values" with
  | some (.arr entries) => entries
  | _ => []

/-- An entry has a name that is a string. -/
def hasName (entry : Value) : Bool :=
  match entry.get? "name" with
  | some (.str _) => true
  | _ => false

/-- A line declares the constant of an entry: under the identifier of its name, a literal of its
value, or that there is none. -/
def Declares (entry : Value) (line : String) : Prop :=
  ∃ name literal, entry.get? "name" = some (.str name) ∧
    line = "const " ++ identifierOf name ++ " = " ++ literal ++ ";" ∧
    (entry.get? "value" = none → literal = "undefined") ∧
    ∀ v, entry.get? "value" = some v → LiteralOf v literal

/-- A named entry is declared by its line: the identifier of its name, and a literal of its value or
`undefined`. -/
theorem declares_constantLine {entry : Value} {name : String}
    (h : entry.get? "name" = some (.str name)) :
    Declares entry (constantLine (identifierOf name) (valueLiteral (entry.get? "value"))) := by
  refine ⟨name, _, h, rfl, fun hnone => ?_, fun v hv => ?_⟩
  · rw [hnone]
    rfl
  · rw [hv]
    exact literalOf_text v

/-- An identifier is made of letters, digits and underscores, all of them visible. -/
theorem visible_identifierOf (name : String) : Visible (identifierOf name).toList := by
  intro c hc
  rcases isLatin_or_eq_of_mem_identifierOf hc with (h | h | h) | rfl
  · exact Nat.le_trans (by decide) (UInt32.le_iff_toNat_le.1 h.1)
  · exact Nat.le_trans (by decide) (UInt32.le_iff_toNat_le.1 h.1)
  · exact Nat.le_trans (by decide) (UInt32.le_iff_toNat_le.1 h.1)
  · decide

/-- The line that declares an entry has no character below the space, whatever name and value
are. -/
theorem Declares.visible {entry : Value} {line : String} (h : Declares entry line) :
    Visible line.toList := by
  obtain ⟨name, literal, -, rfl, habsent, hpresent⟩ := h
  have hliteral : Visible literal.toList := by
    cases hvalue : entry.get? "value" with
    | none =>
      rw [habsent hvalue]
      simp [Visible]
    | some v => exact (hpresent v hvalue).visible
  simp only [String.toList_append, Visible.append_iff]
  refine ⟨⟨⟨⟨?_, visible_identifierOf name⟩, ?_⟩, hliteral⟩, ?_⟩ <;> simp [Visible]

/-- So it is one line of the program. -/
theorem Declares.linesOf {entry : Value} {line : String} (h : Declares entry line) :
    linesOf (indented line) = [indented line] := by
  refine Visible.linesOf ?_
  rw [indented, String.toList_append, Visible.append_iff]
  exact ⟨by simp [Visible], h.visible⟩

/-! ### The code of a set node -/

/-- What is made of the elements that are kept relates to them one by one. -/
theorem forall₂_filterMap {α β : Type} {keep : α → Bool} {f : α → Option β} {R : α → β → Prop}
    (hdrop : ∀ a, keep a = false → f a = none)
    (hkeep : ∀ a, keep a = true → ∃ b, f a = some b ∧ R a b) (as : List α) :
    List.Forall₂ R (as.filter keep) (as.filterMap f) := by
  induction as with
  | nil => exact .nil
  | cons a as ih =>
    cases ha : keep a with
    | false => rwa [List.filter_cons_of_neg (by simp [ha]), List.filterMap_cons_none (hdrop a ha)]
    | true =>
      obtain ⟨b, hb, hR⟩ := hkeep a ha
      rw [List.filter_cons_of_pos ha, List.filterMap_cons_some hb]
      exact .cons hR ih

/-- The named values are the entries that have a string for a name, each with its value if it has
one. -/
theorem namedValues_eq (node : Node) :
    node.namedValues = node.entries.filterMap fun entry =>
      ((entry.get? "name").bind Value.asString?).map fun name => (name, entry.get? "value") := by
  have hentries : ((Members.get? node.parameters "values").bind Value.asArray?).getD [] =
      node.entries := by
    rw [Node.entries]
    rcases Members.get? node.parameters "values" with _ | v
    · rfl
    · cases v <;> rfl
  rw [Node.namedValues, hentries]

/-- Each entry with a name gets a line, in their order. -/
theorem forall₂_declares (node : Node) :
    List.Forall₂ Declares (node.entries.filter hasName) (emitSet node).lines := by
  rw [emitSet, namedValues_eq, List.map_filterMap]
  refine forall₂_filterMap (fun entry hentry => ?_) (fun entry hentry => ?_) node.entries
  · cases hname : entry.get? "name" with
    | none => rfl
    | some v =>
      cases v with
      | str name =>
        rw [hasName, hname] at hentry
        cases hentry
      | _ => rfl
  · rw [hasName] at hentry
    split at hentry
    · next name hname =>
      rw [hname]
      exact ⟨_, rfl, declares_constantLine hname⟩
    · cases hentry

namespace Workflow

/-- The constants of a set node are as many lines of the text as they are statements. -/
theorem flatMap_linesOf_constants (node : Node) :
    ((emitSet node).lines.map indented).flatMap linesOf = (emitSet node).lines.map indented := by
  have hlines : ∀ {entries : List Value} {lines : List String},
      List.Forall₂ Declares entries lines →
      (lines.map indented).flatMap linesOf = lines.map indented := by
    intro entries lines h
    induction h with
    | nil => rfl
    | cons hline _ ih =>
      rw [List.map_cons, List.flatMap_cons, hline.linesOf, ih, List.singleton_append]
  exact hlines (forall₂_declares node)

theorem emit_of_set {node : Node} (hkind : node.kind? = some .set) :
    Registry.standard.emit node = emitSet node :=
  Registry.emit_of_kind hkind

/-- **The block of a set node** in the text: its header, and one line for each constant. -/
theorem body_set {node : Node} (hkind : node.kind? = some .set) :
    body { nodes := [node] } =
      linesOf (indented (headerLine node)) ++ (emitSet node).lines.map indented ++ [""] := by
  have hempty : linesOf "" = [""] := by decide +kernel
  rw [body_eq, List.flatMap_singleton, Registry.block, emit_of_set hkind, List.flatMap_append,
    List.flatMap_cons, flatMap_linesOf_constants, List.flatMap_singleton, hempty]

/-- **Constants hold their values.** The lines that a set node adds to a program are its header and
one declaration for each of its entries that has a name, in the order of the entries: of the
identifier of that name, and of a literal of the entry's value. The literal has no characters below
the space, it is over where the semicolon is, and it reads as the value. -/
theorem constants_hold_their_values {workflow : Workflow} {before behind : List Node} {node : Node}
    (hnodes : workflow.nodes = before ++ node :: behind) (hkind : node.kind? = some .set) :
    let lines := (Registry.standard.emit node).lines
    List.Forall₂ Declares (node.entries.filter hasName) lines ∧
    workflow.body = body { nodes := before } ++
      (linesOf (indented (headerLine node)) ++ lines.map indented ++ [""]) ++
        body { nodes := behind } := by
  have hemit := emit_of_set hkind
  have hbody : workflow.body = body { nodes := before ++ ([node] ++ behind) } := by
    rw [body_eq, body_eq, hnodes]
    rfl
  rw [hemit]
  refine ⟨forall₂_declares node, ?_⟩
  rw [hbody, body_append, body_append, body_set hkind]
  simp only [List.append_assoc]

/-- A value with all that could end a literal too early, and with the greatest integers. -/
def crafty : Value :=
  .obj [("z", .str "\"; process.exit(); //\n\u0000\\"),
    ("a\"b", .arr [.num (.int ⟨-9223372036854775808, by decide⟩),
      .num (.int ⟨18446744073709551615, by decide⟩), .null, .obj []])]

/-- A set node of which some entries have names, and some have values. -/
def settingUp : Node where
  name := "Set up"
  type := "n8n-nodes-base.set"
  parameters := [("values", .arr
    [.obj [("value", crafty), ("name", .str "a;\nb")], .obj [("value", .null)], .str "name",
      .obj [("name", .bool true)], .obj [("name", .str "later")]])]

theorem settingUp_holds_crafty :
    ∃ literal,
      body { nodes := [settingUp] } = ["  // Set up (n8n-nodes-base.set)",
        "  const a__b = " ++ literal ++ ";", "  const later = undefined;", ""] ∧
      skipValue (Source.ofString (literal ++ ";" ++ "*/")) = .ok (Source.ofString (";" ++ "*/")) ∧
      readDocument (readValue 127) (Source.ofString literal) = .ok crafty := by
  obtain ⟨hdeclares, hbody⟩ :=
    @constants_hold_their_values { nodes := [settingUp] } [] [] settingUp rfl (by decide +kernel)
  generalize (Registry.standard.emit settingUp).lines = lines at hdeclares hbody
  obtain ⟨first, second, hfirst, hsecond, rfl⟩ : ∃ first second,
      Declares (.obj [("value", crafty), ("name", .str "a;\nb")]) first ∧
      Declares (.obj [("name", .str "later")]) second ∧ lines = [first, second] := by
    change List.Forall₂ Declares [_, _] lines at hdeclares
    cases hdeclares with
    | cons hfirst hrest =>
      cases hrest with
      | cons hsecond hnil =>
        cases hnil
        exact ⟨_, _, hfirst, hsecond, rfl⟩
  obtain ⟨name, literal, hname, rfl, -, hliteral⟩ := hfirst
  obtain ⟨name', literal', hname', rfl, hliteral', -⟩ := hsecond
  obtain rfl : name = "a;\nb" := by cases hname; rfl
  obtain rfl : name' = "later" := by cases hname'; rfl
  obtain rfl := hliteral' rfl
  have hholds : LiteralOf crafty literal := hliteral _ rfl
  refine ⟨literal, ?_, hholds.ends _, hholds.reads (by decide) ?_ 127 (by decide)⟩
  · have hempty : body { nodes := [] } = [] := by
      rw [body_eq]
      rfl
    have hheader : linesOf (indented (headerLine settingUp)) =
        ["  // Set up (n8n-nodes-base.set)"] := by decide +kernel
    have hfront : "  " ++ ("const " ++ identifierOf "a;\nb" ++ " = ") = "  const a__b = " := by
      decide +kernel
    have hsecond : indented ("const " ++ identifierOf "later" ++ " = " ++ "undefined" ++ ";") =
        "  const later = undefined;" := by decide +kernel
    rw [hbody, hempty, hheader, List.map_cons, List.map_singleton, hsecond, indented, ← hfront]
    simp [String.append_assoc]
  · intro x hx
    simp [crafty, Value.parts, Value.membersParts, Value.itemsParts] at hx

end Workflow

end FlowScript
