import FlowScript.Proofs.Validation.Names
import Mathlib.Data.List.Chain

/-!
# Workflows without warnings

A workflow without warnings runs its nodes in an order that its connections agree with.
What the checks look at, one connection at a time, is put together here:

* `Workflow.Sound` says what a workflow without warnings is like, without the passes that
  look for them;
* `Workflow.Sound.pairwise_notBefore` carries the check of one connection along paths of
  connections, and `Workflow.Sound.eq_of_cycle` around cycles.
-/

namespace FlowScript

namespace Workflow

/-! ### Positions

The table of positions is filled from the last node to the first, so that a name ends up
with the position of the first node that has it. -/

/-- Places are entered from the last name to the first, so the first place of a name overwrites the
later ones. -/
theorem get?_foldr_insert (names : List String) (start : Nat) (name : String) :
    ((names.zipIdx start).foldr (fun (name, i) places => places.insert name i)
        (OrderedMap.empty : OrderedMap Nat)).get? name =
      (names.findIdx? (· == name)).map (· + start) := by
  induction names generalizing start with
  | nil => rfl
  | cons first rest ih =>
    rw [List.zipIdx_cons, List.foldr_cons, OrderedMap.get?_insert, List.findIdx?_cons, ih]
    by_cases h : name = first
    · simp [h]
    · rw [if_neg h, if_neg (by simpa using Ne.symm h), Option.map_map]
      congr 1
      funext i
      simp only [Function.comp_apply]
      omega

/-- The table of positions gives the position of the first node with a name. -/
theorem get?_positions (workflow : Workflow) (name : String) :
    workflow.positions.get? name = workflow.nodeIndex? name := by
  rw [positions, get?_foldr_insert, nodeIndex?, nodeNames, List.findIdx?_map]
  cases h : workflow.nodes.findIdx? ((fun other => other == name) ∘ Node.name) with
  | none => exact h.symm
  | some i => exact h.symm

theorem exists_nodeIndex?_iff {workflow : Workflow} {name : String} :
    (∃ i, workflow.nodeIndex? name = some i) ↔ ∃ node ∈ workflow.nodes, node.name = name := by
  rw [← Option.isSome_iff_exists, nodeIndex?, List.findIdx?_isSome, List.any_eq_true]
  simp only [beq_iff_eq]

/-- A position belongs to one name only. -/
theorem eq_of_nodeIndex? {workflow : Workflow} {a b : String} {i : Nat}
    (ha : workflow.nodeIndex? a = some i) (hb : workflow.nodeIndex? b = some i) : a = b := by
  obtain ⟨_, hname, -⟩ := List.findIdx?_eq_some_iff_getElem.1 ha
  obtain ⟨_, hname', -⟩ := List.findIdx?_eq_some_iff_getElem.1 hb
  exact (beq_iff_eq.1 hname).symm.trans (beq_iff_eq.1 hname')

/-! ### What a workflow without warnings is like -/

/-- Both are names of nodes, and the first node of the second name does not stand before
that of the first. -/
def NotBefore (workflow : Workflow) (a b : String) : Prop :=
  ∃ i j, workflow.nodeIndex? a = some i ∧ workflow.nodeIndex? b = some j ∧ i ≤ j

/-- A connection leads from one name to another. -/
def Feeds (workflow : Workflow) (a b : String) : Prop :=
  ∃ edge ∈ workflow.edges, edge.1 = a ∧ edge.2.node = b

/-- Nothing makes the program of the workflow doubtful. -/
structure Sound (workflow : Workflow) (registry : Registry) : Prop where
  /-- there is a node -/
  nodes_ne_nil : workflow.nodes ≠ []
  /-- no two nodes have names of one identifier -/
  identifiers_nodup : (workflow.nodes.map fun node => identifierOf node.name).Nodup
  /-- connections, also those without targets, leave nodes of the workflow -/
  sources_known : ∀ source ∈ workflow.connections.keys, ∃ node ∈ workflow.nodes, node.name = source
  /-- every connection leads to a node that does not stand before its source -/
  edges_forward : ∀ edge ∈ workflow.edges, workflow.NotBefore edge.1 edge.2.node
  /-- every type has an emitter -/
  types_resolved : ∀ node ∈ workflow.nodes, ∃ emitter, registry.resolve? node.type = some emitter

/-! ### What the passes find -/

theorem emptyWarnings_eq_nil_iff (workflow : Workflow) :
    workflow.emptyWarnings = [] ↔ workflow.nodes ≠ [] := by
  rw [emptyWarnings]
  cases workflow.nodes <;> simp

theorem sourceWarnings_eq_nil_iff (workflow : Workflow) :
    workflow.sourceWarnings workflow.positions = [] ↔
      ∀ source ∈ workflow.connections.keys, ∃ node ∈ workflow.nodes, node.name = source := by
  rw [sourceWarnings, List.map_eq_nil_iff, List.filter_eq_nil_iff]
  simp only [get?_positions, Option.isNone_iff_eq_none, Option.ne_none_iff_exists',
    exists_nodeIndex?_iff]

/-- A connection that leaves a node has no warning exactly when it leads to a node that
does not stand before that one. -/
theorem edgeWarning?_eq_none_iff {workflow : Workflow} {edge : String × Target}
    (hsource : ∃ node ∈ workflow.nodes, node.name = edge.1) :
    workflow.edgeWarning? workflow.positions edge = none ↔
      workflow.NotBefore edge.1 edge.2.node := by
  obtain ⟨i, hi⟩ := exists_nodeIndex?_iff.2 hsource
  rw [edgeWarning?, get?_positions, get?_positions, hi, NotBefore]
  cases hj : workflow.nodeIndex? edge.2.node with
  | none => simp
  | some j => simp [hi]

theorem typeWarnings_eq_nil_iff (workflow : Workflow) (registry : Registry) :
    workflow.typeWarnings registry = [] ↔
      ∀ node ∈ workflow.nodes, ∃ emitter, registry.resolve? node.type = some emitter := by
  rw [typeWarnings, List.map_eq_nil_iff, List.filter_eq_nil_iff]
  simp only [Registry.handles, Bool.not_eq_true', Bool.not_eq_false, Option.isSome_iff_exists]

/-- The source of a connection is a key of the connections. -/
theorem fst_mem_keys_of_mem_edges {workflow : Workflow} {edge : String × Target}
    (h : edge ∈ workflow.edges) : edge.1 ∈ workflow.connections.keys := by
  obtain ⟨entry, hentry, hedge⟩ := List.mem_flatMap.1 h
  obtain ⟨target, -, rfl⟩ := List.mem_map.1 hedge
  exact List.mem_map.2 ⟨entry, hentry, rfl⟩

/-- No connection is warned of exactly if every source is a node and no edge leads back. Edges from
a node to itself do not lead back. -/
theorem connectionWarnings_eq_nil_iff (workflow : Workflow) :
    workflow.connectionWarnings = [] ↔
      (∀ source ∈ workflow.connections.keys, ∃ node ∈ workflow.nodes, node.name = source) ∧
      ∀ edge ∈ workflow.edges, workflow.NotBefore edge.1 edge.2.node := by
  simp only [connectionWarnings]
  rw [List.append_eq_nil_iff, sourceWarnings_eq_nil_iff, List.filterMap_eq_nil_iff]
  -- connections out of unknown nodes are passed over, so the sources come first
  constructor
  · rintro ⟨hsources, hedges⟩
    refine ⟨hsources, fun edge hedge => ?_⟩
    have hsource := hsources edge.1 (fst_mem_keys_of_mem_edges hedge)
    exact (edgeWarning?_eq_none_iff hsource).1 (hedges edge hedge)
  · rintro ⟨hsources, hedges⟩
    refine ⟨hsources, fun edge hedge => ?_⟩
    have hsource := hsources edge.1 (fst_mem_keys_of_mem_edges hedge)
    exact (edgeWarning?_eq_none_iff hsource).2 (hedges edge hedge)

/-- **No warnings** mean that all four conditions hold, each from its own part of the warnings. -/
theorem warningsWith_eq_nil_iff (workflow : Workflow) (registry : Registry) :
    workflow.warningsWith registry = [] ↔ workflow.Sound registry := by
  rw [warningsWith, List.append_eq_nil_iff, List.append_eq_nil_iff, List.append_eq_nil_iff,
    emptyWarnings_eq_nil_iff, nameWarnings_eq_nil_iff, connectionWarnings_eq_nil_iff,
    typeWarnings_eq_nil_iff, nodeNames, List.map_map]
  constructor
  · rintro ⟨⟨⟨hnodes, hnames⟩, hsources, hedges⟩, htypes⟩
    exact ⟨hnodes, hnames, hsources, hedges, htypes⟩
  · rintro ⟨hnodes, hnames, hsources, hedges, htypes⟩
    exact ⟨⟨⟨hnodes, hnames⟩, hsources, hedges⟩, htypes⟩

/-! ### Paths and cycles -/

theorem NotBefore.trans {workflow : Workflow} {a b c : String} (hab : workflow.NotBefore a b)
    (hbc : workflow.NotBefore b c) : workflow.NotBefore a c := by
  obtain ⟨i, j, hi, hj, hij⟩ := hab
  obtain ⟨j', k, hj', hk, hjk⟩ := hbc
  obtain rfl : j = j' := Option.some.inj (hj.symm.trans hj')
  exact ⟨i, k, hi, hk, hij.trans hjk⟩

instance (workflow : Workflow) :
    Trans workflow.NotBefore workflow.NotBefore workflow.NotBefore :=
  ⟨NotBefore.trans⟩

/-- Two nodes with edges both ways would be warned of in one direction, unless they have one
name. -/
theorem NotBefore.antisymm {workflow : Workflow} {a b : String} (hab : workflow.NotBefore a b)
    (hba : workflow.NotBefore b a) : a = b := by
  obtain ⟨i, j, hi, hj, hij⟩ := hab
  obtain ⟨j', i', hj', hi', hji⟩ := hba
  obtain rfl : j = j' := Option.some.inj (hj.symm.trans hj')
  obtain rfl : i = i' := Option.some.inj (hi.symm.trans hi')
  obtain rfl : i = j := Nat.le_antisymm hij hji
  exact eq_of_nodeIndex? hi hj

/-- One connection does not lead back. -/
theorem Sound.notBefore_of_feeds {workflow : Workflow} {registry : Registry}
    (h : workflow.Sound registry) {a b : String} (hab : workflow.Feeds a b) :
    workflow.NotBefore a b := by
  obtain ⟨edge, hedge, rfl, rfl⟩ := hab
  exact h.edges_forward edge hedge

/-- No path of connections leads back. -/
theorem Sound.pairwise_notBefore {workflow : Workflow} {registry : Registry}
    (h : workflow.Sound registry) {path : List String} (hpath : path.IsChain workflow.Feeds) :
    path.Pairwise workflow.NotBefore :=
  (hpath.imp fun _ _ => h.notBefore_of_feeds).pairwise

/-- A cycle of connections stays at one node. -/
theorem Sound.eq_of_cycle {workflow : Workflow} {registry : Registry}
    (h : workflow.Sound registry) {start : String} {between : List String}
    (hcycle : (start :: (between ++ [start])).IsChain workflow.Feeds) {name : String}
    (hname : name ∈ between) : name = start := by
  obtain ⟨hfirst, hrest⟩ := List.pairwise_cons.1 (h.pairwise_notBefore hcycle)
  obtain ⟨-, -, hlast⟩ := List.pairwise_append.1 hrest
  have hout : workflow.NotBefore start name := hfirst name (List.mem_append_left _ hname)
  have hback : workflow.NotBefore name start := hlast name hname start List.mem_cons_self
  exact hback.antisymm hout

/-- **Workflows without warnings**: there is no warning exactly when the workflow is
sound, and then the stored order is a topological order of its connections: positions
never fall along a path, and a cycle only repeats connections of one node to itself. -/
theorem warnings_nil_iff_sound_and_topological (workflow : Workflow) (registry : Registry) :
    (workflow.warningsWith registry = [] ↔ workflow.Sound registry) ∧
      (workflow.warningsWith registry = [] →
        (∀ path : List String, path.IsChain workflow.Feeds → path.Pairwise workflow.NotBefore) ∧
        ∀ (start : String) (between : List String),
          (start :: (between ++ [start])).IsChain workflow.Feeds →
            ∀ name ∈ between, name = start) := by
  refine ⟨warningsWith_eq_nil_iff workflow registry, fun hnone => ?_⟩
  have hsound : workflow.Sound registry := (warningsWith_eq_nil_iff workflow registry).1 hnone
  refine ⟨fun _ hpath => hsound.pairwise_notBefore hpath, ?_⟩
  intro _ _ hcycle _ hname
  exact hsound.eq_of_cycle hcycle hname

/-- Two nodes, of which the first feeds the second and the second feeds itself. -/
def fetchAndRepeat : Workflow :=
  let fetch : Node := { name := "Fetch", type := "n8n-nodes-base.httpRequest" }
  let shape : Node := { name := "Shape", type := "set" }
  (({ nodes := [fetch, shape] } : Workflow).withConnection "Fetch" "Shape").withConnection
    "Shape" "Shape"

theorem fetchAndRepeat_sound :
    fetchAndRepeat.warningsWith .standard = [] ∧ fetchAndRepeat.Sound .standard ∧
      ["Fetch", "Shape", "Shape"].Pairwise fetchAndRepeat.NotBefore := by
  have hnone : fetchAndRepeat.warningsWith .standard = [] := by decide +kernel
  obtain ⟨hiff, hpaths⟩ := warnings_nil_iff_sound_and_topological fetchAndRepeat .standard
  refine ⟨hnone, hiff.1 hnone, (hpaths hnone).1 _ ?_⟩
  have hfirst : fetchAndRepeat.Feeds "Fetch" "Shape" :=
    ⟨("Fetch", { node := "Shape" }), by decide +kernel, rfl, rfl⟩
  have hsecond : fetchAndRepeat.Feeds "Shape" "Shape" :=
    ⟨("Shape", { node := "Shape" }), by decide +kernel, rfl, rfl⟩
  exact .cons_cons hfirst (.cons_cons hsecond (.singleton _))

end Workflow

end FlowScript
