import FlowScript.Proofs.OrderedMap
import FlowScript.Proofs.Text.Utf8
import FlowScript.Workflow.Basic
import Mathlib.Data.List.Basic

/-!
# Building workflows

The connections of a workflow are maps within maps, and they are looked at in three ways: source
by source in `Workflow.edges`, from one source in `Workflow.downstream`, and slot by slot when a
connection is added. All three are said here by what leaves a single source (`Workflow.leaving`):

* the edges of a source are what leaves it (`Workflow.filter_edges`), so going downstream from a
  node and picking its edges is the same;
* one more connection is one more edge, behind those of the first slot of the main channel, and
  nothing else is touched (`Workflow.Connects`);
* what steps of building make of a source depends on the connections from it alone
  (`Workflow.get?_connections_build`), so the order of steps for different sources does not
  matter.
-/

namespace FlowScript

open OrderedMap

namespace Workflow

/-! ### What leaves a source -/

/-- The channels out of a source. -/
def channelsOf (workflow : Workflow) (source : String) : Channels :=
  (workflow.connections.get? source).getD .empty

/-- The targets of the connections out of a source, in the order of its channels and slots. -/
def leaving (workflow : Workflow) (source : String) : List Target :=
  (workflow.channelsOf source).targets

/-- The edges out of a source with its channels. -/
def edgesOut (entry : String × Channels) : List (String × Target) :=
  entry.2.targets.map (Prod.mk entry.1)

theorem fst_eq_of_mem_edgesOut {entry : String × Channels} {edge : String × Target}
    (h : edge ∈ edgesOut entry) : edge.1 = entry.1 := by
  obtain ⟨target, -, rfl⟩ := List.mem_map.1 h
  rfl

theorem edges_eq_flatMap (workflow : Workflow) :
    workflow.edges = workflow.connections.entries.flatMap edgesOut := rfl

/-- What is downstream of a node is what its edges lead to. -/
theorem downstream_eq_leaving (workflow : Workflow) (name : String) :
    workflow.downstream name = (workflow.leaving name).map Target.node := by
  rw [downstream, leaving, channelsOf]
  cases workflow.connections.get? name <;> rfl

/-- The edges that leave a source stand together, between those of lower and of higher sources. -/
theorem exists_edges_eq (workflow : Workflow) (source : String) :
    ∃ before behind,
      workflow.edges = before ++ (workflow.leaving source).map (Prod.mk source) ++ behind ∧
      (∀ edge ∈ before, edge.1 ≠ source) ∧ (∀ edge ∈ behind, edge.1 ≠ source) ∧
      ∀ f, edges { workflow with connections := workflow.connections.modify source f } =
        before ++ edgesOut (source, f (workflow.connections.get? source)) ++ behind := by
  obtain ⟨before, behind, haround⟩ := workflow.connections.exists_around source
  refine ⟨before.flatMap edgesOut, behind.flatMap edgesOut, ?_, ?_, ?_, ?_⟩
  · rw [edges_eq_flatMap, haround.entries_eq, List.flatMap_append, List.flatMap_append, leaving,
      channelsOf]
    cases workflow.connections.get? source with
    | none => rfl
    | some channels => simp [edgesOut]
  · intro edge hedge heq
    obtain ⟨entry, hentry, hedge⟩ := List.mem_flatMap.1 hedge
    have hbelow := haround.below entry hentry
    rw [← fst_eq_of_mem_edgesOut hedge, heq] at hbelow
    exact String.lt_irrefl source hbelow
  · intro edge hedge heq
    obtain ⟨entry, hentry, hedge⟩ := List.mem_flatMap.1 hedge
    have habove := haround.above entry hentry
    rw [← fst_eq_of_mem_edgesOut hedge, heq] at habove
    exact String.lt_irrefl source habove
  · intro f
    rw [edges_eq_flatMap, haround.entries_modify]
    simp

/-- A source has one entry among the connections, so its edges are those of that entry. -/
theorem filter_edges (workflow : Workflow) (source : String) :
    (workflow.edges.filter fun edge => edge.1 = source) =
      (workflow.leaving source).map (Prod.mk source) := by
  obtain ⟨before, behind, hedges, hbefore, hbehind, -⟩ := workflow.exists_edges_eq source
  have hnone : ∀ {edges : List (String × Target)}, (∀ edge ∈ edges, edge.1 ≠ source) →
      (edges.filter fun edge => edge.1 = source) = [] := by
    intro edges h
    apply List.filter_eq_nil_iff.2
    intro edge hedge
    simpa using h edge hedge
  rw [hedges, List.filter_append, List.filter_append, hnone hbefore, hnone hbehind]
  simp

/-- Going downstream from a node is picking its edges. -/
theorem downstream_eq_filter_edges (workflow : Workflow) (name : String) :
    workflow.downstream name =
      (workflow.edges.filter fun edge => edge.1 = name).map fun edge => edge.2.node := by
  rw [filter_edges, List.map_map, downstream_eq_leaving]
  rfl

/-- The edges go through their sources in ascending order, byte by byte. -/
theorem pairwise_edges (workflow : Workflow) :
    workflow.edges.Pairwise fun a b => a.1 = b.1 ∨
      Text.Utf8.encode a.1.toList < Text.Utf8.encode b.1.toList := by
  rw [edges_eq_flatMap, List.pairwise_flatMap]
  constructor
  · intro entry _
    rw [edgesOut, List.pairwise_map]
    exact List.pairwise_of_forall fun _ _ => .inl rfl
  · apply workflow.connections.ascending.imp
    intro first second hlt a ha b hb
    right
    rw [fst_eq_of_mem_edgesOut ha, fst_eq_of_mem_edgesOut hb]
    exact Text.Utf8.encode_lt_encode hlt

/-! ### One more connection -/

/-- The targets of a slot. -/
def slot? (workflow : Workflow) (source channel : String) (i : Nat) : Option (List Target) :=
  ((workflow.channelsOf source).get? channel).bind (·[i]?)

/-- Channels with one connection more. -/
def connected (channels : Channels) (target : String) : Channels :=
  channels.modify mainChannel fun slots => addToFirstSlot { node := target } (slots.getD [])

theorem connections_withConnection (workflow : Workflow) (source target : String) :
    (workflow.withConnection source target).connections =
      workflow.connections.modify source fun channels =>
        connected (channels.getD .empty) target := rfl

/-- A target goes to the end of the first slot, which is made if there is none. -/
theorem getElem?_addToFirstSlot (target : Target) (slots : List (List Target)) (i : Nat) :
    (addToFirstSlot target slots)[i]? =
      if i = 0 then some (slots[0]?.getD [] ++ [target]) else slots[i]? := by
  cases slots <;> cases i <;> simp [addToFirstSlot]

theorem flatten_eq_append_tail (slots : List (List Target)) :
    slots.flatten = slots[0]?.getD [] ++ slots.tail.flatten := by
  cases slots <;> simp

theorem flatten_addToFirstSlot (target : Target) (slots : List (List Target)) :
    (addToFirstSlot target slots).flatten =
      slots[0]?.getD [] ++ [target] ++ slots.tail.flatten := by
  cases slots <;> simp [addToFirstSlot]

theorem targets_eq_flatMap (channels : Channels) :
    channels.targets = channels.entries.flatMap fun entry => entry.2.flatten := by
  rw [Channels.targets, values, List.flatten_flatten, List.map_map, List.flatMap_def]
  rfl

/-- The new target stands behind those of the first slot of the main channel. -/
theorem exists_targets_connected (channels : Channels) (target : String) :
    ∃ before behind,
      channels.targets =
        before ++ ((channels.get? mainChannel).bind (·[0]?)).getD [] ++ behind ∧
      (connected channels target).targets =
        before ++ (((channels.get? mainChannel).bind (·[0]?)).getD [] ++ [{ node := target }])
          ++ behind := by
  obtain ⟨before, behind, haround⟩ := channels.exists_around mainChannel
  refine ⟨before.flatMap fun entry => entry.2.flatten,
    ((channels.get? mainChannel).getD []).tail.flatten ++
      behind.flatMap fun entry => entry.2.flatten, ?_, ?_⟩
  · rw [targets_eq_flatMap, haround.entries_eq]
    cases channels.get? mainChannel with
    | none => simp
    | some slots => simp [flatten_eq_append_tail slots]
  · rw [targets_eq_flatMap, connected, haround.entries_modify]
    cases channels.get? mainChannel with
    | none => simp [addToFirstSlot]
    | some slots => simp [flatten_addToFirstSlot]

/-- A workflow becomes another by one more connection. -/
structure Connects (workflow later : Workflow) (source target : String) : Prop where
  /-- only the connections can be other than they were -/
  apart : later = { workflow with connections := later.connections }
  /-- there is one edge more, behind those of the first slot -/
  edges : ∃ before behind,
    workflow.edges =
      before ++ ((workflow.slot? source "main" 0).getD []).map (Prod.mk source) ++ behind ∧
    later.edges =
      before ++ ((workflow.slot? source "main" 0).getD []).map (Prod.mk source) ++
        (source, { node := target, channel := "main", index := 0 }) :: behind
  /-- the slot has one target more, and the others have what they had -/
  slots : ∀ i, later.slot? source "main" i =
    if i = 0 then
      some ((workflow.slot? source "main" 0).getD [] ++
        [{ node := target, channel := "main", index := 0 }])
    else workflow.slot? source "main" i
  /-- the other channels of the source are as they were -/
  channels : ∀ channel, channel ≠ "main" →
    (later.channelsOf source).get? channel = (workflow.channelsOf source).get? channel
  /-- the other sources are as they were -/
  sources : ∀ other, other ≠ source →
    later.connections.get? other = workflow.connections.get? other ∧
    (later.edges.filter fun edge => edge.1 = other) =
      workflow.edges.filter fun edge => edge.1 = other

/-- **Frame.** A connection is made at its source; what other nodes are connected to stays. -/
theorem get?_connections_withConnection (workflow : Workflow) (source target other : String) :
    (workflow.withConnection source target).connections.get? other =
      if other = source then some (connected (workflow.channelsOf source) target)
      else workflow.connections.get? other := by
  rw [connections_withConnection, get?_modify, channelsOf]

theorem channelsOf_withConnection_self (workflow : Workflow) (source target : String) :
    (workflow.withConnection source target).channelsOf source =
      connected (workflow.channelsOf source) target := by
  rw [channelsOf, get?_connections_withConnection, if_pos rfl, Option.getD_some]

/-- The step of building is the one that the relation between two workflows describes. -/
theorem connects_withConnection (workflow : Workflow) (source target : String) :
    workflow.Connects (workflow.withConnection source target) source target where
  apart := rfl
  edges := by
    obtain ⟨before, behind, hedges, -, -, hmodify⟩ := workflow.exists_edges_eq source
    obtain ⟨front, back, htargets, hconnected⟩ :=
      exists_targets_connected (workflow.channelsOf source) target
    refine ⟨before ++ front.map (Prod.mk source), back.map (Prod.mk source) ++ behind, ?_, ?_⟩
    · rw [hedges, leaving, htargets, slot?, ← mainChannel]
      simp
    · rw [withConnection, hmodify, slot?, ← mainChannel]
      change _ ++ (connected (workflow.channelsOf source) target).targets.map _ ++ _ = _
      rw [hconnected]
      simp
  slots i := by
    rw [slot?, slot?, slot?, channelsOf_withConnection_self, connected, ← mainChannel,
      get?_modify_self, Option.bind_some, getElem?_addToFirstSlot]
    cases (workflow.channelsOf source).get? mainChannel <;> simp
  channels channel h := by
    rw [channelsOf_withConnection_self, connected, mainChannel, get?_modify_of_ne _ _ h]
  sources other h := by
    have hget := workflow.get?_connections_withConnection source target other
    rw [if_neg h] at hget
    refine ⟨hget, ?_⟩
    rw [filter_edges, filter_edges, leaving, leaving, channelsOf, channelsOf, hget]

/-! ### Step by step -/

/-- A step in which a workflow is built. -/
inductive Step where
  /-- a node is added -/
  | node (node : Node)
  /-- a connection is added -/
  | connection (source target : String)

namespace Step

/-- The node that a step adds. -/
def node? : Step → Option Node
  | .node added => some added
  | .connection _ _ => none

/-- The name to which a step connects a source. -/
def targetFrom? (source : String) : Step → Option String
  | .node _ => none
  | .connection start target => if start = source then some target else none

end Step

/-- A workflow after a step. -/
def after (workflow : Workflow) : Step → Workflow
  | .node added => workflow.withNode added
  | .connection source target => workflow.withConnection source target

/-- A workflow after steps, one after the other. -/
def build (workflow : Workflow) (steps : List Step) : Workflow := steps.foldl after workflow

theorem build_cons (workflow : Workflow) (step : Step) (steps : List Step) :
    workflow.build (step :: steps) = (workflow.after step).build steps := rfl

/-- Steps add nodes and connections, and touch nothing else. -/
theorem build_eq (workflow : Workflow) (steps : List Step) :
    workflow.build steps =
      { workflow with
        nodes := workflow.nodes ++ steps.filterMap Step.node?
        connections := (workflow.build steps).connections } := by
  induction steps generalizing workflow with
  | nil => simp [build]
  | cons step rest ih =>
    rw [build_cons, ih]
    cases step with
    | node added => simp [after, withNode, Step.node?]
    | connection source target => simp [after, withConnection, Step.node?, List.filterMap_cons]

/-- The channels of a source, if it has any, with one connection more. -/
def connectedTo (channels : Option Channels) (target : String) : Option Channels :=
  some (connected (channels.getD .empty) target)

/-- A step changes the channels of a source if it connects the source. -/
theorem get?_connections_after (workflow : Workflow) (step : Step) (source : String) :
    (workflow.after step).connections.get? source =
      (step.targetFrom? source).toList.foldl connectedTo (workflow.connections.get? source) := by
  cases step with
  | node added => rfl
  | connection start target =>
    rw [after, get?_connections_withConnection, Step.targetFrom?]
    by_cases h : start = source
    · rw [if_pos h, if_pos h.symm, h]
      rfl
    · rw [if_neg h, if_neg (Ne.symm h)]
      rfl

/-- What steps make of a source is made by those that connect it. -/
theorem get?_connections_build (workflow : Workflow) (steps : List Step) (source : String) :
    (workflow.build steps).connections.get? source =
      (steps.filterMap (Step.targetFrom? source)).foldl connectedTo
        (workflow.connections.get? source) := by
  induction steps generalizing workflow with
  | nil => rfl
  | cons step rest ih =>
    rw [build_cons, ih, get?_connections_after, List.filterMap_cons]
    cases step.targetFrom? source <;> rfl

/-- Steps can be put in any other order that keeps the order of the nodes, and for each source the
order of its connections. -/
theorem build_eq_of_same_parts {workflow : Workflow} {steps others : List Step}
    (hnodes : steps.filterMap Step.node? = others.filterMap Step.node?)
    (htargets : ∀ source, steps.filterMap (Step.targetFrom? source) =
      others.filterMap (Step.targetFrom? source)) :
    workflow.build steps = workflow.build others := by
  have hconnections : (workflow.build steps).connections = (workflow.build others).connections := by
    apply eq_of_get?
    intro source
    rw [get?_connections_build, get?_connections_build, htargets]
  rw [build_eq, build_eq workflow others, hnodes, hconnections]

/-- Connections out of different sources can be added in either order. -/
theorem withConnection_comm (workflow : Workflow) {a c : String} (h : a ≠ c) (b d : String) :
    (workflow.withConnection a b).withConnection c d =
      (workflow.withConnection c d).withConnection a b := by
  have hsame : workflow.build [.connection a b, .connection c d] =
      workflow.build [.connection c d, .connection a b] := by
    refine build_eq_of_same_parts rfl fun source => ?_
    by_cases ha : a = source
    · have hc : c ≠ source := fun hc => h (ha.trans hc.symm)
      simp [Step.targetFrom?, ha, hc]
    · simp [Step.targetFrom?, List.filterMap_cons, ha]
  exact hsame

/-! ### From the beginning -/

/-- Channels that have come about by adding targets: there are no others than the main one, and it
has no further slots. -/
inductive Straight : Channels → List Target → Prop where
  /-- nothing is connected -/
  | empty : Straight .empty []
  /-- all targets are in the first slot of the main channel -/
  | main {channels : Channels} {targets : List Target}
    (h : channels.entries = [(mainChannel, [targets])]) : Straight channels targets

theorem Straight.targets_eq {channels : Channels} {targets : List Target}
    (h : Straight channels targets) : channels.targets = targets := by
  cases h with
  | empty => rfl
  | main h => simp [targets_eq_flatMap, h]

/-- **Step.** Channels with nothing but a first slot of the main channel stay so, and the slot gets
one target more. -/
theorem Straight.connected {channels : Channels} {targets : List Target}
    (h : Straight channels targets) (target : String) :
    Straight (connected channels target) (targets ++ [{ node := target }]) := by
  refine .main ?_
  change modifyEntries mainChannel _ channels.entries = _
  cases h with
  | empty => rfl
  | main h =>
    rw [h, modifyEntries, if_neg (String.lt_irrefl _), if_pos rfl]
    rfl

/-- **Run.** So a source that is only ever connected by steps has its targets in the order of the
steps. -/
theorem straight_foldl_connectedTo (channels : Option Channels) {before : List Target}
    (h : Straight (channels.getD .empty) before) (targets : List String) :
    Straight ((targets.foldl connectedTo channels).getD .empty)
      (before ++ targets.map fun target => { node := target }) := by
  induction targets generalizing channels before with
  | nil => simpa using h
  | cons target rest ih =>
    have hrest := ih (connectedTo channels target) (h.connected target)
    rwa [List.append_assoc] at hrest

/-- A node that was built from the beginning leads where it was connected to, in that order. -/
theorem downstream_build (name : String) (steps : List Step) (source : String) :
    (build { name } steps).downstream source = steps.filterMap (Step.targetFrom? source) := by
  have hstraight := straight_foldl_connectedTo none .empty
    (steps.filterMap (Step.targetFrom? source))
  rw [downstream_eq_leaving, leaving, channelsOf, get?_connections_build]
  refine (congrArg (List.map Target.node) hstraight.targets_eq).trans ?_
  simp [Function.comp_def]

/-! ### All together -/

/-- **Connections add up.** Going downstream from a node is picking its edges, which are listed by
ascending sources. A connection that is added is one edge more, at the end of the first slot of
the source's main channel, and nothing else is other than it was. So a workflow that is built step
by step leads from a node to where it was connected, in that order; connections out of different
sources can be added in either order, and whole runs of steps can be interleaved in any way. -/
theorem connections_add_up (workflow : Workflow) :
    (∀ name, workflow.downstream name =
      (workflow.edges.filter fun edge => edge.1 = name).map fun edge => edge.2.node) ∧
    (workflow.edges.Pairwise fun a b => a.1 = b.1 ∨
      Text.Utf8.encode a.1.toList < Text.Utf8.encode b.1.toList) ∧
    (∀ source target,
      workflow.Connects (workflow.withConnection source target) source target) ∧
    (∀ name steps source, (build { name } steps).downstream source =
      steps.filterMap (Step.targetFrom? source)) ∧
    (∀ a b c d, a ≠ c → (workflow.withConnection a b).withConnection c d =
      (workflow.withConnection c d).withConnection a b) ∧
    ∀ steps others, steps.filterMap Step.node? = others.filterMap Step.node? →
      (∀ source, steps.filterMap (Step.targetFrom? source) =
        others.filterMap (Step.targetFrom? source)) →
      workflow.build steps = workflow.build others :=
  ⟨workflow.downstream_eq_filter_edges, workflow.pairwise_edges, workflow.connects_withConnection,
    downstream_build, fun _ b _ d h => workflow.withConnection_comm h b d,
    fun _ _ => build_eq_of_same_parts⟩

/-- A node with two channels, of which the main one has an empty slot and a target twice. -/
def branching : Workflow where
  nodes := [{ name := "Ask", type := "if" }, { name := "Fill", type := "set" }]
  connections := OrderedMap.empty.insert "Ask" ((OrderedMap.empty.insert "error"
    [[{ node := "Stop" }]]).insert "main"
      [[], [{ node := "Fill", index := 2 }, { node := "Fill" }]])

/-- Steps in which the connections of two sources take turns. -/
def turns : List Step :=
  [.connection "Fill" "Ask", .node { name := "End", type := "noOp" }, .connection "Ask" "End",
    .connection "Fill" "End"]

theorem branching_adds_up :
    (branching.withConnection "Ask" "Ask").slot? "Ask" "main" 0 = some [{ node := "Ask" }] ∧
    (branching.withConnection "Ask" "Ask").slot? "Ask" "main" 1 =
      branching.slot? "Ask" "main" 1 ∧
    ((branching.withConnection "Ask" "Ask").channelsOf "Ask").get? "error" =
      (branching.channelsOf "Ask").get? "error" ∧
    (branching.withConnection "Ask" "Ask").downstream "Ask" = ["Stop", "Ask", "Fill", "Fill"] ∧
    (build { name := "New" } turns).downstream "Fill" = ["Ask", "End"] ∧
    (branching.withConnection "Ask" "Ask").withConnection "Fill" "Ask" =
      (branching.withConnection "Fill" "Ask").withConnection "Ask" "Ask" ∧
    branching.build turns = branching.build [.connection "Ask" "End", .connection "Fill" "Ask",
      .connection "Fill" "End", .node { name := "End", type := "noOp" }] := by
  obtain ⟨-, -, hconnects, hbuild, hcomm, hreorder⟩ := connections_add_up branching
  obtain ⟨hdownstream, -⟩ := connections_add_up (branching.withConnection "Ask" "Ask")
  have hask := hconnects "Ask" "Ask"
  refine ⟨hask.slots 0, hask.slots 1, hask.channels "error" (by decide), ?_, ?_,
    hcomm "Ask" "Ask" "Fill" "Ask" (by decide), hreorder _ _ rfl fun source => ?_⟩
  · rw [hdownstream]
    decide +kernel
  · rw [hbuild]
    decide +kernel
  · by_cases hfill : "Fill" = source
    · subst hfill
      rfl
    · simp [turns, Step.targetFrom?, List.filterMap_cons, hfill]

end Workflow

end FlowScript
