import FlowScript.Proofs.Script.Registry
import FlowScript.Proofs.Script.Scope
import FlowScript.Proofs.Validation.Collisions

/-!
# Identifiers bound again, and identifiers warned of

Code and warnings both deal with identifiers that occur twice, and they do not mean the same. The
code binds the identifier of a request's name, and those of the names in a set node
(`Workflow.boundNames`); other nodes bind nothing. The warnings are on the names of nodes, of
all kinds, and on nothing else.

An identifier is bound again exactly if two bound names become it (`mem_redeclared_iff`), and
warned of exactly if two nodes have names that become it (`warnsOf_iff`). The two agree on an
identifier that only requests have.
-/

namespace FlowScript

namespace Workflow

/-! ### Identifiers bound again -/

/-- The names that a node binds the identifiers of. -/
def boundNamesOf (node : Node) : List String :=
  match node.kind? with
  | some .httpRequest => [node.name]
  | some .set => node.namedValues.map Prod.fst
  | _ => []

/-- The names that become identifiers in the code: those of the requests, and those of the values
in set nodes. -/
def boundNames (workflow : Workflow) : List String := workflow.nodes.flatMap boundNamesOf

/-- What the code of a node binds is made from names: its own, or those of its entries. -/
theorem bindings_emit_standard (node : Node) :
    (Registry.standard.emit node).bindings = (boundNamesOf node).map identifierOf := by
  rw [Registry.emit_standard, boundNamesOf]
  cases node.kind? with
  | none => rfl
  | some kind =>
    cases kind with
    | httpRequest => rfl
    | set => simp [Kind.emitter, emitSet]
    | function =>
      simp only [Option.map_some, Option.getD_some, Kind.emitter, emitFunction, List.map_nil]
      split <;> rfl

theorem map_fst_bindings (workflow : Workflow) :
    (workflow.bindings .standard).map Prod.fst = workflow.boundNames.map identifierOf := by
  simp [bindings, boundNames, List.map_flatMap, bindings_emit_standard, Function.comp_def]

/-- An identifier is bound again if it is that of two bound names. -/
theorem mem_redeclared_iff (workflow : Workflow) (identifier : String) :
    identifier ∈ (workflow.scope .standard).redeclared ↔
      2 ≤ (workflow.boundNames.map identifierOf).count identifier := by
  rw [(workflow.records_scope .standard).mem_redeclared_iff, map_fst_bindings]

/-! ### Identifiers warned of -/

theorem mem_warnings_iff_mem_nameWarnings {workflow : Workflow} {warning : Warning}
    (h : warning.subject = .names) :
    warning ∈ workflow.warnings ↔ warning ∈ workflow.nameWarnings := by
  rw [warnings, mem_warningsWith_iff, h, warningsOn]

theorem duplicateName_mem_warnings_iff {workflow : Workflow} {name : String} :
    Warning.duplicateName name ∈ workflow.warnings ↔ 2 ≤ workflow.nodeNames.count name := by
  rw [mem_warnings_iff_mem_nameWarnings rfl, nameWarnings, ← mem_repeatedNames_iff]
  simp

/-- A warning of a collision is about all names of nodes that become the identifier, and so never
about the names of entries. -/
theorem identifierCollision_mem_warnings_iff {workflow : Workflow} {identifier : String}
    {names : List String} :
    Warning.identifierCollision identifier names ∈ workflow.warnings ↔
      names = (namesOf identifier workflow.nodeNames).eraseDups ∧ 1 < names.length := by
  rw [mem_warnings_iff_mem_nameWarnings rfl, nameWarnings_eq, ← mem_collisions_iff]
  simp

/-- There is a warning on names that become an identifier. -/
def WarnsOf (workflow : Workflow) (identifier : String) : Prop :=
  (∃ names, Warning.identifierCollision identifier names ∈ workflow.warnings) ∨
    ∃ name, Warning.duplicateName name ∈ workflow.warnings ∧ identifierOf name = identifier

theorem length_namesOf (identifier : String) (names : List String) :
    (namesOf identifier names).length = (names.map identifierOf).count identifier := by
  rw [namesOf, ← List.countP_eq_length_filter, List.count, List.countP_map]
  rfl

/-- An identifier is warned of if it is that of the names of two nodes. -/
theorem warnsOf_iff (workflow : Workflow) (identifier : String) :
    workflow.WarnsOf identifier ↔
      2 ≤ (workflow.nodeNames.map identifierOf).count identifier := by
  rw [← length_namesOf]
  have hcount {name : String} (hname : identifierOf name = identifier) :
      (namesOf identifier workflow.nodeNames).count name = workflow.nodeNames.count name :=
    List.count_filter (by simpa using hname)
  constructor
  · rintro (⟨names, hcollision⟩ | ⟨name, hduplicate, hname⟩)
    · obtain ⟨rfl, hlength⟩ := identifierCollision_mem_warnings_iff.1 hcollision
      obtain ⟨a, ha, b, hb, hne⟩ := one_lt_length_eraseDups_iff.1 hlength
      by_contra hshort
      exact hne (eq_of_mem_of_length_le_one (by omega) ha hb)
    · rw [duplicateName_mem_warnings_iff, ← hcount hname] at hduplicate
      exact Nat.le_trans hduplicate List.count_le_length
  · intro hlength
    by_cases hdifferent : ∃ a ∈ namesOf identifier workflow.nodeNames,
        ∃ b ∈ namesOf identifier workflow.nodeNames, a ≠ b
    · left
      exact ⟨_, identifierCollision_mem_warnings_iff.2
        ⟨rfl, one_lt_length_eraseDups_iff.2 hdifferent⟩⟩
    · -- all nodes of the identifier have one name
      right
      push Not at hdifferent
      obtain ⟨name, hmem⟩ := List.exists_mem_of_length_pos (Nat.zero_lt_of_lt hlength)
      have hname := (mem_namesOf.1 hmem).2
      have hall := List.count_eq_length.2 (hdifferent name hmem)
      rw [hcount hname] at hall
      exact ⟨name, duplicateName_mem_warnings_iff.2 (by omega), hname⟩

/-! ### Where the two agree -/

/-- What no node binds more often in one way than in the other is not bound more often by all of
them. -/
theorem count_flatMap_le {nodes : List Node} {fewer more : Node → List String} {identifier : String}
    (h : ∀ node ∈ nodes, ((fewer node).map identifierOf).count identifier ≤
      ((more node).map identifierOf).count identifier) :
    ((nodes.flatMap fewer).map identifierOf).count identifier ≤
      ((nodes.flatMap more).map identifierOf).count identifier := by
  induction nodes with
  | nil => exact Nat.le_refl 0
  | cons node rest ih =>
    obtain ⟨hnode, hrest⟩ := List.forall_mem_cons.1 h
    simp only [List.flatMap_cons, List.map_append, List.count_append]
    exact Nat.add_le_add hnode (ih hrest)

theorem nodeNames_eq_flatMap (workflow : Workflow) :
    workflow.nodeNames = workflow.nodes.flatMap fun node => [node.name] :=
  List.map_eq_flatMap

/-- Without a constant of an identifier, no node binds it more often than its name has it. -/
theorem count_boundNames_le {workflow : Workflow} {identifier : String}
    (h : ∀ node ∈ workflow.nodes, node.kind? = some .set →
      ∀ entry ∈ node.namedValues, identifierOf entry.1 ≠ identifier) :
    (workflow.boundNames.map identifierOf).count identifier ≤
      (workflow.nodeNames.map identifierOf).count identifier := by
  rw [boundNames, nodeNames_eq_flatMap]
  refine count_flatMap_le fun node hnode => ?_
  rw [boundNamesOf]
  split
  · exact Nat.le_refl _
  · next hkind =>
    have hnone : identifier ∉ (node.namedValues.map Prod.fst).map identifierOf := by
      simpa using h node hnode hkind
    rw [List.count_eq_zero.2 hnone]
    exact Nat.zero_le _
  · exact Nat.zero_le _

/-- A node that has an identifier by its name binds it, if it is a request. -/
theorem count_nodeNames_le {workflow : Workflow} {identifier : String}
    (h : ∀ node ∈ workflow.nodes, identifierOf node.name = identifier →
      node.kind? = some .httpRequest) :
    (workflow.nodeNames.map identifierOf).count identifier ≤
      (workflow.boundNames.map identifierOf).count identifier := by
  rw [boundNames, nodeNames_eq_flatMap]
  refine count_flatMap_le fun node hnode => ?_
  by_cases hname : identifierOf node.name = identifier
  · exact Nat.le_of_eq (by rw [boundNamesOf, h node hnode hname])
  · have hnone : identifier ∉ [node.name].map identifierOf := by
      simpa using Ne.symm hname
    rw [List.count_eq_zero.2 hnone]
    exact Nat.zero_le _

/-- **Bound again and warned of**: an identifier is bound again if two bound names become it, and
warned of if the names of two nodes do. So if no constant has the identifier, it is not bound again
without a warning; and if all nodes with the identifier are requests, there is no warning unless
it is bound again. -/
theorem redeclared_and_warned_of (workflow : Workflow) (identifier : String) :
    (identifier ∈ (workflow.scope .standard).redeclared ↔
      2 ≤ (workflow.boundNames.map identifierOf).count identifier) ∧
    (workflow.WarnsOf identifier ↔
      2 ≤ (workflow.nodeNames.map identifierOf).count identifier) ∧
    ((∀ node ∈ workflow.nodes, node.kind? = some .set →
        ∀ entry ∈ node.namedValues, identifierOf entry.1 ≠ identifier) →
      identifier ∈ (workflow.scope .standard).redeclared → workflow.WarnsOf identifier) ∧
    ((∀ node ∈ workflow.nodes, identifierOf node.name = identifier →
        node.kind? = some .httpRequest) →
      workflow.WarnsOf identifier → identifier ∈ (workflow.scope .standard).redeclared) := by
  refine ⟨mem_redeclared_iff workflow identifier, warnsOf_iff workflow identifier,
    fun hconstants hagain => ?_, fun hrequests hwarned => ?_⟩
  · rw [warnsOf_iff]
    exact Nat.le_trans ((mem_redeclared_iff workflow identifier).1 hagain)
      (count_boundNames_le hconstants)
  · rw [mem_redeclared_iff]
    exact Nat.le_trans ((warnsOf_iff workflow identifier).1 hwarned)
      (count_nodeNames_le hrequests)

/-- Two requests of one identifier, behind a constant and a note that have others. -/
def pagedTwice : Workflow where
  nodes := [
    { name := "Defaults", type := "n8n-nodes-base.set",
      parameters := [("values", .arr [.obj [("name", .str "page size")]])] },
    { name := "Note", type := "n8n-nodes-base.stickyNote" },
    { name := "Get page", type := "n8n-nodes-base.httpRequest" },
    { name := "Get-page", type := "httpRequest" }]

/-- Neither a constant nor a node of another kind has the identifier of the two requests, so it is
bound again and warned of, each because of the other. -/
theorem pagedTwice_redeclared_and_warned_of :
    ((∀ node ∈ pagedTwice.nodes, node.kind? = some .set →
        ∀ entry ∈ node.namedValues, identifierOf entry.1 ≠ "Get_page") ∧
      "Get_page" ∈ (pagedTwice.scope .standard).redeclared ∧ pagedTwice.WarnsOf "Get_page") ∧
    (∀ node ∈ pagedTwice.nodes, identifierOf node.name = "Get_page" →
        node.kind? = some .httpRequest) ∧
      pagedTwice.WarnsOf "Get_page" ∧ "Get_page" ∈ (pagedTwice.scope .standard).redeclared := by
  obtain ⟨hagain, hwarned, hconstants, hrequests⟩ := redeclared_and_warned_of pagedTwice "Get_page"
  have hnoConstant : ∀ node ∈ pagedTwice.nodes, node.kind? = some .set →
      ∀ entry ∈ node.namedValues, identifierOf entry.1 ≠ "Get_page" := by decide +kernel
  have honlyRequests : ∀ node ∈ pagedTwice.nodes, identifierOf node.name = "Get_page" →
      node.kind? = some .httpRequest := by decide +kernel
  have hbound := hagain.2 (by decide +kernel)
  have hwarns := hwarned.2 (by decide +kernel)
  exact ⟨⟨hnoConstant, hbound, hconstants hnoConstant hbound⟩, honlyRequests, hwarns,
    hrequests honlyRequests hwarns⟩

/-- Two constants of one identifier in one node. -/
def defaultsTwice : Workflow where
  nodes := [{ name := "Defaults", type := "n8n-nodes-base.set", parameters := [("values", .arr
    [.obj [("name", .str "page size")], .obj [("name", .str "page_size")]])] }]

/-- Two nodes of one name that bind nothing. -/
def notesAlike : Workflow where
  nodes := [{ name := "Note", type := "n8n-nodes-base.stickyNote" },
    { name := "Note", type := "n8n-nodes-base.stickyNote" }]

/-- Neither of the two follows from the other: constants are bound again without a warning, and
nodes that bind nothing are warned of. -/
theorem redeclared_not_iff_warned_of :
    ("page_size" ∈ (defaultsTwice.scope .standard).redeclared ∧
      ¬ defaultsTwice.WarnsOf "page_size") ∧
    "Note" ∉ (notesAlike.scope .standard).redeclared ∧ notesAlike.WarnsOf "Note" := by
  rw [warnsOf_iff, warnsOf_iff, mem_redeclared_iff, mem_redeclared_iff]
  decide +kernel

end Workflow

end FlowScript
