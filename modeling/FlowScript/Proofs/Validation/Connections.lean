import FlowScript.Proofs.Text.Utf8
import FlowScript.Proofs.Validation.Order
import FlowScript.Proofs.Validation.Subjects

/-!
# Warnings on connections, one by one

The pass over the connections looks names up in a table of positions, and reports in two rounds:
the sources that are no nodes, in the order of their keys, and then the connections that leave
known nodes, in the order of `Workflow.edges`. What it reports of a connection is said here by the
names and the positions of the nodes, without the table (`Workflow.Deserves`), and the pass is
shown to report that, once for each time the connection occurs
(`Workflow.connection_warnings_in_order`).
-/

namespace FlowScript

/-- The keys of a map ascend byte by byte. -/
theorem OrderedMap.pairwise_keys {α : Type} (m : OrderedMap α) :
    m.keys.Pairwise fun a b => Text.Utf8.encode a.toList < Text.Utf8.encode b.toList := by
  rw [keys, List.pairwise_map]
  exact m.ascending.imp fun h => Text.Utf8.encode_lt_encode h

namespace Workflow

variable {workflow : Workflow} {name : String}

/-! ### Nodes by their names -/

theorem nodeIndex?_eq_none_iff : workflow.nodeIndex? name = none ↔ name ∉ workflow.nodeNames := by
  rw [nodeIndex?, List.findIdx?_eq_none_iff, nodeNames]
  simp

theorem mem_nodeNames_of_nodeIndex? {i : Nat} (h : workflow.nodeIndex? name = some i) :
    name ∈ workflow.nodeNames := by
  by_contra hnot
  rw [nodeIndex?_eq_none_iff.2 hnot] at h
  cases h

theorem exists_nodeIndex?_of_mem (h : name ∈ workflow.nodeNames) :
    ∃ i, workflow.nodeIndex? name = some i := by
  rw [← Option.ne_none_iff_exists', ne_eq, nodeIndex?_eq_none_iff]
  exact not_not_intro h

/-- The position of a name is that of the first node that has it. -/
theorem nodeIndex?_eq_some_iff {i : Nat} :
    workflow.nodeIndex? name = some i ↔
      (∃ node, workflow.nodes[i]? = some node ∧ node.name = name) ∧
        ∀ j < i, ∀ node, workflow.nodes[j]? = some node → node.name ≠ name := by
  rw [nodeIndex?, List.findIdx?_eq_some_iff_getElem]
  constructor
  · rintro ⟨hi, hname, hbefore⟩
    refine ⟨⟨_, List.getElem?_eq_getElem hi, beq_iff_eq.1 hname⟩, fun j hj node hnode heq => ?_⟩
    obtain ⟨_, rfl⟩ := List.getElem?_eq_some_iff.1 hnode
    exact hbefore j hj (beq_iff_eq.2 heq)
  · rintro ⟨⟨node, hnode, hname⟩, hbefore⟩
    obtain ⟨hi, rfl⟩ := List.getElem?_eq_some_iff.1 hnode
    refine ⟨hi, beq_iff_eq.2 hname, fun j hj heq => ?_⟩
    exact hbefore j hj _ (List.getElem?_eq_getElem (by omega)) (beq_iff_eq.1 heq)

/-- The node of a name stands at the position of the name. -/
theorem node?_eq_bind_nodeIndex? (workflow : Workflow) (name : String) :
    workflow.node? name = (workflow.nodeIndex? name).bind (workflow.nodes[·]?) := by
  rw [node?, nodeIndex?]
  exact List.find?_eq_bind_findIdx?_getElem?

/-! ### What is reported -/

/-- A connection is warned of: it leaves a node and leads to none, or it leads to a node before
the one it leaves. -/
inductive Deserves (workflow : Workflow) : String × Target → Warning → Prop where
  /-- what it leads to is no node -/
  | unknownTarget {source : String} {target : Target} (hsource : source ∈ workflow.nodeNames)
    (htarget : target.node ∉ workflow.nodeNames) :
    Deserves workflow (source, target) (.unknownTarget source target.node workflow.nodeNames)
  /-- the first node of its target stands before that of its source -/
  | outOfOrder {source : String} {target : Target} {i j : Nat}
    (hsource : workflow.nodeIndex? source = some i)
    (htarget : workflow.nodeIndex? target.node = some j) (hbefore : j < i) :
    Deserves workflow (source, target) (.outOfOrder source target.node)

theorem sourceWarnings_positions (workflow : Workflow) :
    workflow.sourceWarnings workflow.positions =
      (workflow.connections.keys.filter (· ∉ workflow.nodeNames)).map
        fun source => .unknownSource source workflow.nodeNames := by
  have hunknown (source : String) :
      (workflow.positions.get? source).isNone = decide (source ∉ workflow.nodeNames) := by
    rw [get?_positions, Bool.eq_iff_iff, Option.isNone_iff_eq_none, decide_eq_true_iff]
    exact nodeIndex?_eq_none_iff
  simp only [sourceWarnings, hunknown]

/-- An edge deserves at most one warning, and gets the one that it deserves. -/
theorem edgeWarning?_eq_some_iff {edge : String × Target} {warning : Warning} :
    workflow.edgeWarning? workflow.positions edge = some warning ↔
      workflow.Deserves edge warning := by
  obtain ⟨source, target⟩ := edge
  rw [edgeWarning?, get?_positions, get?_positions]
  dsimp only
  constructor
  · intro h
    split at h
    · cases h
    · next i hi hj =>
      cases h
      exact .unknownTarget (mem_nodeNames_of_nodeIndex? hi) (nodeIndex?_eq_none_iff.1 hj)
    · next i j hi hj =>
      split at h
      · next hbefore =>
        cases h
        exact .outOfOrder hi hj hbefore
      · cases h
  · rintro (⟨hsource, htarget⟩ | ⟨hsource, htarget, hbefore⟩)
    · obtain ⟨i, hi⟩ := exists_nodeIndex?_of_mem hsource
      rw [hi, nodeIndex?_eq_none_iff.2 htarget]
    · rw [hsource, htarget]
      exact if_pos hbefore

/-- First the sources that no node has, each once; then the edges, in the order of the
connections. -/
theorem connectionWarnings_eq (workflow : Workflow) :
    workflow.connectionWarnings =
      ((workflow.connections.keys.filter (· ∉ workflow.nodeNames)).map
        fun source => .unknownSource source workflow.nodeNames) ++
      workflow.edges.filterMap (workflow.edgeWarning? workflow.positions) := by
  rw [connectionWarnings, sourceWarnings_positions]

/-- **The warnings on connections** are these, in this order: one for each key of the connections
that is no node's name, by ascending keys; then one for each time that a connection occurs which
leaves a node and leads to none, or leads to a node before the one it leaves. The position of a
name is that of its first node, in the table of the pass as in lookups by name. -/
theorem connection_warnings_in_order (workflow : Workflow) :
    (∃ warning? : String × Target → Option Warning,
      (∀ edge warning, warning? edge = some warning ↔ workflow.Deserves edge warning) ∧
      workflow.warnings.filter (·.subject = .connections) =
        ((workflow.connections.keys.filter (· ∉ workflow.nodeNames)).map
          fun source => .unknownSource source workflow.nodeNames) ++
        workflow.edges.filterMap warning?) ∧
    (workflow.connections.keys.Pairwise fun a b =>
      Text.Utf8.encode a.toList < Text.Utf8.encode b.toList) ∧
    ∀ name, workflow.positions.get? name = workflow.nodeIndex? name ∧
      workflow.node? name = (workflow.nodeIndex? name).bind (workflow.nodes[·]?) ∧
      ∀ i, workflow.nodeIndex? name = some i ↔
        (∃ node, workflow.nodes[i]? = some node ∧ node.name = name) ∧
          ∀ j < i, ∀ node, workflow.nodes[j]? = some node → node.name ≠ name := by
  refine ⟨⟨workflow.edgeWarning? workflow.positions, fun _ _ => edgeWarning?_eq_some_iff, ?_⟩,
    workflow.connections.pairwise_keys, fun name => ⟨workflow.get?_positions name,
      workflow.node?_eq_bind_nodeIndex? name, fun _ => nodeIndex?_eq_some_iff⟩⟩
  rw [warnings, filter_subject_warningsWith]
  exact workflow.connectionWarnings_eq

/-- A name that two nodes have, a connection back that occurs twice, and names that no node has. -/
def tangled : Workflow :=
  let node (name : String) : Node := { name, type := "set" }
  ((((({ nodes := [node "Ask", node "Fill", node "Ask"] } : Workflow).withConnection "Fill"
    "Ask").withConnection "Fill" "Fill").withConnection "Fill" "Ask").withConnection "Ask"
      "Nowhere").withConnection "Zoo" "Ask"

theorem tangled_warned_in_order :
    tangled.warnings.filter (·.subject = .connections) =
      [.unknownSource "Zoo" ["Ask", "Fill", "Ask"],
        .unknownTarget "Ask" "Nowhere" ["Ask", "Fill", "Ask"],
        .outOfOrder "Fill" "Ask", .outOfOrder "Fill" "Ask"] ∧
    tangled.Deserves ("Fill", { node := "Ask" }) (.outOfOrder "Fill" "Ask") ∧
    tangled.positions.get? "Ask" = some 0 := by
  obtain ⟨-, -, hnames⟩ := connection_warnings_in_order tangled
  have hask : tangled.nodeIndex? "Ask" = some 0 :=
    ((hnames "Ask").2.2 0).2 ⟨⟨_, rfl, rfl⟩, fun j hj => absurd hj (Nat.not_lt_zero j)⟩
  have hfill : tangled.nodeIndex? "Fill" = some 1 := by decide +kernel
  exact ⟨by decide +kernel, .outOfOrder hfill hask (by decide), (hnames "Ask").1.trans hask⟩

end Workflow

end FlowScript
