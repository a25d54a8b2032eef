import FlowScript.Proofs.Script.Layout
import FlowScript.Proofs.Validation.Redeclaration
import Mathlib.Data.List.Forall2
import Mathlib.Data.List.Induction

/-!
# Bindings in the code and in the scope

An emitter gives the identifiers that its lines bind beside the lines, and the scope is told of the
identifiers only. Here both are held against each other. A node that binds anything has one
declaration for each of its bindings, in their order (`Binds`). The scope goes through the bindings
of all nodes as one list (`Workflow.scope_eq`), and the identifiers that it has recorded as bound
again are that list without the first occurrence of each (`withoutFirsts`): one more binding adds
the same to both (`withoutFirsts_concat`).
-/

namespace FlowScript

/-! ### First occurrences -/

/-- Identifiers without the first occurrence of each. -/
def withoutFirsts (identifiers : List String) : List String :=
  identifiers.diff identifiers.eraseDups

/-- Among first occurrences nothing stands twice. -/
theorem nodup_eraseDups (names : List String) : names.eraseDups.Nodup := by
  refine (pairwise_idxOf_eraseDups names).imp ?_
  rintro a _ hbefore rfl
  exact absurd hbefore (Nat.lt_irrefl _)

/-- What is taken out of a list at its front leaves the rest alone. -/
theorem append_diff_of_nodup {taken front : List String} (hnodup : taken.Nodup)
    (hfront : taken ⊆ front) (behind : List String) :
    (front ++ behind).diff taken = front.diff taken ++ behind := by
  induction taken generalizing front with
  | nil => rfl
  | cons a taken ih =>
    obtain ⟨ha, hnodup⟩ := List.nodup_cons.1 hnodup
    obtain ⟨hmem, hfront⟩ := List.cons_subset.1 hfront
    have hleft : taken ⊆ front.erase a := by
      intro b hb
      have hne : b ≠ a := fun h => ha (h ▸ hb)
      exact (List.mem_erase_of_ne hne).2 (hfront hb)
    rw [List.diff_cons, List.diff_cons, List.erase_append_left _ hmem, ih hnodup hleft]

/-- One more identifier stays if it was there before. -/
theorem withoutFirsts_concat (identifiers : List String) (identifier : String) :
    withoutFirsts (identifiers ++ [identifier]) =
      withoutFirsts identifiers ++ if identifier ∈ identifiers then [identifier] else [] := by
  have hsubset : identifiers.eraseDups ⊆ identifiers := fun _ h => List.mem_eraseDups.1 h
  have hfront := append_diff_of_nodup (nodup_eraseDups identifiers) hsubset [identifier]
  rw [withoutFirsts, withoutFirsts, List.eraseDups_append, List.diff_append, hfront]
  by_cases hmem : identifier ∈ identifiers
  · simp [hmem, List.cons_removeAll]
  · have hnone : identifier ∉ identifiers.diff identifiers.eraseDups := fun h =>
      hmem (List.diff_subset _ _ h)
    simp [hmem, List.cons_removeAll, List.eraseDups_cons, List.erase_append_right _ hnone]

/-! ### What the scope has recorded -/

namespace Scope

/-- Makes bindings in order, each for its node. -/
def declareEach (scope : Scope) (bindings : List (String × String)) : Scope :=
  bindings.foldl (fun scope binding => scope.declare binding.1 binding.2) scope

theorem declareEach_append (scope : Scope) (bindings further : List (String × String)) :
    scope.declareEach (bindings ++ further) = (scope.declareEach bindings).declareEach further :=
  List.foldl_append

theorem declareEach_concat (scope : Scope) (bindings : List (String × String))
    (binding : String × String) :
    scope.declareEach (bindings ++ [binding]) =
      (scope.declareEach bindings).declare binding.1 binding.2 :=
  declareEach_append scope bindings [binding]

theorem declareAll_eq (scope : Scope) (identifiers : List String) (node : String) :
    scope.declareAll identifiers node =
      scope.declareEach (identifiers.map fun identifier => (identifier, node)) := by
  rw [declareAll, declareEach, List.foldl_map]

/-- Bindings that are declared one after the other, from nothing on, are recorded in their order. -/
theorem records_declareEach (bindings : List (String × String)) :
    (declareEach { } bindings).Records bindings := by
  induction bindings using List.reverseRecOn with
  | nil => exact records_nil
  | append_singleton bindings binding ih =>
    rw [declareEach_concat]
    exact ih.declare binding.1 binding.2

/-- An identifier is recorded as bound again each time but the first, in the order of the
bindings. -/
theorem redeclared_declareEach (bindings : List (String × String)) :
    (declareEach { } bindings).redeclared = withoutFirsts (bindings.map Prod.fst) := by
  induction bindings using List.reverseRecOn with
  | nil => rfl
  | append_singleton bindings binding ih =>
    have howner : ((declareEach { } bindings).owner? binding.1).isSome = true ↔
        binding.1 ∈ bindings.map Prod.fst := by
      rw [(records_declareEach bindings).owner, isSome_lookup_iff]
    rw [declareEach_concat, redeclared_declare, ih, List.map_append, List.map_singleton,
      withoutFirsts_concat]
    simp only [howner]

end Scope

/-- Whoever binds identifiers in a row owns all of them. -/
theorem lookup_map_pair (identifiers : List String) (identifier node : String) :
    (identifiers.map fun identifier => (identifier, node)).lookup identifier =
      if identifier ∈ identifiers then some node else none := by
  induction identifiers with
  | nil => rfl
  | cons first rest ih =>
    rw [List.map_cons, List.lookup_cons, ih]
    by_cases hfirst : identifier = first
    · simp [hfirst]
    · simp [hfirst, beq_false_of_ne hfirst]

namespace Workflow

theorem bindings_cons (node : Node) (nodes : List Node) (registry : Registry) :
    bindings { nodes := node :: nodes } registry =
      (registry.emit node).bindings.map (fun identifier => (identifier, node.name)) ++
        bindings { nodes } registry :=
  List.flatMap_cons

/-- The first binding of an identifier is in the first node that binds it. -/
theorem lookup_bindings (nodes : List Node) (registry : Registry) (identifier : String) :
    (bindings { nodes } registry).lookup identifier =
      (nodes.find? fun node => identifier ∈ (registry.emit node).bindings).map Node.name := by
  induction nodes with
  | nil => rfl
  | cons node nodes ih =>
    rw [bindings_cons, List.lookup_append, lookup_map_pair, ih, List.find?_cons]
    by_cases hbinds : identifier ∈ (registry.emit node).bindings
    · simp [hbinds]
    · simp [hbinds]

end Workflow

/-- **Step.** One more node declares what its code binds, all of it in its own name. -/
theorem Draft.scope_add (registry : Registry) (draft : Draft) (node : Node) :
    (draft.add registry node).scope = draft.scope.declareEach
      ((registry.emit node).bindings.map fun identifier => (identifier, node.name)) :=
  draft.scope.declareAll_eq (registry.emit node).bindings node.name

/-- **Run.** So all nodes declare the bindings of the workflow, in order. Lines and scope of a draft
grow apart from each other. -/
theorem Draft.scope_foldl_add (registry : Registry) (nodes : List Node) (draft : Draft) :
    (nodes.foldl (Draft.add registry) draft).scope =
      draft.scope.declareEach (Workflow.bindings { nodes } registry) := by
  induction nodes generalizing draft with
  | nil => rfl
  | cons node nodes ih =>
    rw [List.foldl_cons, ih, scope_add, Workflow.bindings_cons, Scope.declareEach_append]

/-- The nodes of a program make their bindings one after the other. -/
theorem Workflow.scope_eq (workflow : Workflow) (registry : Registry) :
    workflow.scope registry = Scope.declareEach { } (workflow.bindings registry) :=
  Draft.scope_foldl_add registry workflow.nodes _

/-! ### What the code binds -/

/-- A line is a declaration of an identifier. -/
def Binds (line identifier : String) : Prop :=
  ∃ rest, line = "const " ++ identifier ++ " = " ++ rest

/-- The statement of a request begins with its binding, whatever method and address follow. -/
theorem binds_requestLine (identifier method url : String) :
    Binds (requestLine identifier method url) identifier := by
  have hcall : " = await axios(\x7b method: '" = " = " ++ "await axios(\x7b method: '" := by
    decide +kernel
  refine ⟨"await axios(\x7b method: '" ++ method ++ "', url: `" ++ url ++ "` \x7d);", ?_⟩
  simp only [requestLine, hcall, String.append_assoc]

theorem binds_constantLine (identifier literal : String) :
    Binds (constantLine identifier literal) identifier :=
  ⟨literal ++ ";", String.append_assoc⟩

/-- Kinds that bind anything declare what they bind, line by line. -/
theorem forall₂_binds {kind : Kind} (hkind : kind ≠ .function) (node : Node) :
    List.Forall₂ Binds (kind.emitter node).lines (kind.emitter node).bindings := by
  cases kind with
  | httpRequest => exact .cons (binds_requestLine _ _ _) .nil
  | set =>
    rw [Kind.emitter, emitSet, List.forall₂_map_left_iff, List.forall₂_map_right_iff,
      List.forall₂_same]
    exact fun entry _ => binds_constantLine _ _
  | function => exact absurd rfl hkind

namespace Workflow

/-- An author's code may bind what it likes; none of that is recorded. -/
theorem bindings_of_function {node : Node} (hkind : node.kind? = some .function) :
    (Registry.standard.emit node).bindings = [] := by
  rw [bindings_emit_standard, boundNamesOf, hkind]
  rfl

/-- A comment binds nothing. -/
theorem bindings_of_unhandled {node : Node} (h : Registry.standard.handles node.type = false) :
    (Registry.standard.emit node).bindings = [] := by
  have hnone : Registry.standard.resolve? node.type = none := by simpa [Registry.handles] using h
  rw [Registry.emit, hnone]
  rfl

/-- **Bindings are recorded as they are written.** The program has the lines that the emitters give,
and its scope has recorded as bound again what the nodes bind, in order and without the first
occurrence of each identifier; the owner of an identifier is the first node that binds it. The
lines of requests and of set nodes are declarations of what these nodes bind, one for each binding
and in the same order. All that is bound are identifiers, and other nodes bind nothing. -/
theorem bindings_recorded_as_written (workflow : Workflow) :
    let draft := workflow.draft .standard { }
    let emitted (node : Node) : Emission := Registry.standard.emit node
    draft.lines = openingLines ++ workflow.nodes.flatMap (fun node =>
      indented (headerLine node) :: (emitted node).lines.map indented ++ [""]) ∧
    draft.scope.redeclared =
      withoutFirsts (workflow.nodes.flatMap fun node => (emitted node).bindings) ∧
    (∀ identifier, draft.scope.owner? identifier =
      (workflow.nodes.find? fun node => identifier ∈ (emitted node).bindings).map Node.name) ∧
    ∀ node : Node,
      (node.kind? = some .httpRequest ∨ node.kind? = some .set →
        List.Forall₂ Binds (emitted node).lines (emitted node).bindings) ∧
      (∀ identifier ∈ (emitted node).bindings, ∀ c ∈ identifier.toList, IsLatin c ∨ c = '_') ∧
      (node.kind? = some .function ∨ Registry.standard.handles node.type = false →
        (emitted node).bindings = []) := by
  intro draft emitted
  have hscope : draft.scope = Scope.declareEach { } (workflow.bindings .standard) :=
    workflow.scope_eq .standard
  have hidentifiers : (workflow.bindings .standard).map Prod.fst =
      workflow.nodes.flatMap fun node => (emitted node).bindings := by
    simp [bindings, emitted, List.map_flatMap, Function.comp_def]
  refine ⟨workflow.lines_draft .standard { }, ?_, fun identifier => ?_, fun node => ⟨?_, ?_, ?_⟩⟩
  · rw [hscope, Scope.redeclared_declareEach, hidentifiers]
  · rw [hscope, (Scope.records_declareEach _).owner]
    exact lookup_bindings workflow.nodes .standard identifier
  · have hdeclares {kind : Kind} (hkind : node.kind? = some kind) (hne : kind ≠ .function) :
        List.Forall₂ Binds (emitted node).lines (emitted node).bindings := by
      have hemit : emitted node = kind.emitter node := Registry.emit_of_kind hkind
      rw [hemit]
      exact forall₂_binds hne node
    rintro (hkind | hkind)
    · exact hdeclares hkind (by decide)
    · exact hdeclares hkind (by decide)
  · intro identifier hmem c hc
    have hnames : (emitted node).bindings = (boundNamesOf node).map identifierOf :=
      bindings_emit_standard node
    rw [hnames] at hmem
    obtain ⟨name, -, rfl⟩ := List.mem_map.1 hmem
    exact isLatin_or_eq_of_mem_identifierOf hc
  · rintro (hkind | hunhandled)
    · exact bindings_of_function hkind
    · exact bindings_of_unhandled hunhandled

/-- A set node that binds one identifier twice. -/
def pageDefaults : Node where
  name := "Defaults"
  type := "n8n-nodes-base.set"
  parameters := [("values", .arr
    [.obj [("name", .str "page size")], .obj [("name", .str "page_size")], .null])]

/-- Requests that bind the identifier of the set node again, and another one twice. -/
def rebinding : Workflow where
  nodes := [pageDefaults, { name := "Wait", type := "wait" },
    { name := "Next?", type := "httpRequest" }, { name := "page-size", type := "httpRequest" },
    { name := "Next!", type := "httpRequest" }]

theorem rebinding_recorded :
    (rebinding.draft .standard { }).scope.redeclared = ["page_size", "page_size", "Next_"] ∧
    (rebinding.draft .standard { }).scope.owner? "Next_" = some "Next?" ∧
    List.Forall₂ Binds ["const page_size = undefined;", "const page_size = undefined;"]
      ["page_size", "page_size"] := by
  obtain ⟨-, hagain, howner, hnodes⟩ := bindings_recorded_as_written rebinding
  refine ⟨?_, ?_, (hnodes pageDefaults).1 (.inr (by decide +kernel))⟩
  · rw [hagain]
    decide +kernel
  · rw [howner]
    decide +kernel

end Workflow

end FlowScript
