import FlowScript.Proofs.Script.Layout
import FlowScript.Proofs.Validation.Subjects

/-!
# Types that nothing serves

The code of a node is made by the emitter that serves its type, and a node without one leaves a
comment. The code asks a registry for the emitter and the validation only whether there is one,
so the nodes warned of are those that leave the comment, one warning for each and in their order,
whatever the registry (`types_recognised_alike`).

With the standard registry, what serves a type is the emitter of its kind, and the kind is told by
the last segment of the type. The three agree on every text, also on one that ends in a dot or
has nothing but dots.
-/

namespace FlowScript

/-- The code of a node by the emitter that serves it, or the comment of a node without one. -/
def codeBy (node : Node) (emitter? : Option Emitter) : List String :=
  emitter?.elim ["// unhandled node type: " ++ node.type] fun emitter => (emitter node).lines

namespace Registry

theorem lines_emit (registry : Registry) (node : Node) :
    (registry.emit node).lines = codeBy node (registry.resolve? node.type) := by
  rw [emit]
  cases registry.resolve? node.type <;> rfl

/-- A block depends on the registry through what it resolves the type to, and in its code only. -/
theorem block_eq (registry : Registry) (node : Node) :
    registry.block node = ["  // " ++ node.name ++ " (" ++ node.type ++ ")"] ++
      (codeBy node (registry.resolve? node.type)).map indented ++ [""] := by
  rw [block, indented_headerLine, lines_emit, List.singleton_append]

theorem resolve?_standard_eq_none_iff {type : String} :
    standard.resolve? type = none ↔ Kind.ofType? type = none := by
  rw [resolve?_standard, Option.map_eq_none_iff]

end Registry

namespace Workflow

/-- The nodes of a workflow, each with the emitter that its type has in a registry. -/
def served (workflow : Workflow) (registry : Registry) : List (Node × Option Emitter) :=
  workflow.nodes.map fun node => (node, registry.resolve? node.type)

theorem map_fst_served (workflow : Workflow) (registry : Registry) :
    (workflow.served registry).map Prod.fst = workflow.nodes := by
  simp [served, Function.comp_def]

/-- What stands beside a node is what serves its type. -/
theorem serves_of_mem_served {workflow : Workflow} {registry : Registry}
    {entry : Node × Option Emitter} (h : entry ∈ workflow.served registry) (emitter : Emitter) :
    entry.2 = some emitter ↔ registry.Serves entry.1.type emitter := by
  obtain ⟨node, -, rfl⟩ := List.mem_map.1 h
  exact Registry.resolve?_eq_some_iff

/-- The program and the warnings are made from one list: the nodes, each with what serves it. So
they cannot differ on which nodes are handled. -/
theorem compileWith_eq (workflow : Workflow) (registry : Registry) :
    workflow.compileWith registry = Text.unlines (openingLines ++
      ((workflow.served registry).flatMap fun entry =>
        ["  // " ++ entry.1.name ++ " (" ++ entry.1.type ++ ")"] ++
          (codeBy entry.1 entry.2).map indented ++ [""]) ++ closingLines) := by
  rw [compileWith, programLines_eq, served, List.flatMap_map, funext registry.block_eq]

theorem typeWarnings_eq (workflow : Workflow) (registry : Registry) :
    workflow.typeWarnings registry =
      ((workflow.served registry).filter (·.2.isNone)).map
        fun entry => .unhandledType entry.1.name entry.1.type := by
  simp only [typeWarnings, served, Registry.handles, Option.not_isSome, List.filter_map,
    List.map_map]
  rfl

/-- **Recognised alike**: that a type is of a kind, that the standard registry has the kind's
emitter for it and that its last segment is the kind's key are one; and no two kinds have one
emitter. With any registry, the code of a workflow is made by the emitters that serve its nodes'
types. The warnings on types are one for each node that none serves, which leaves only a comment,
in the order of the nodes. -/
theorem types_recognised_alike :
    (∀ (type : String) (kind : Kind),
      (Kind.ofType? type = some kind ↔
        Registry.standard.resolve? type = some kind.emitter) ∧
      (Kind.ofType? type = some kind ↔ IsLastSegment kind.key type)) ∧
    (∀ type, Kind.ofType? type = none ↔ Registry.standard.resolve? type = none) ∧
    (∀ kind other : Kind, kind.emitter = other.emitter ↔ kind = other) ∧
    ∀ (workflow : Workflow) (registry : Registry),
      ∃ served : List (Node × Option Emitter), served.map Prod.fst = workflow.nodes ∧
        (∀ entry ∈ served, ∀ emitter,
          entry.2 = some emitter ↔ registry.Serves entry.1.type emitter) ∧
        workflow.compileWith registry = Text.unlines (openingLines ++
          (served.flatMap fun entry =>
            ["  // " ++ entry.1.name ++ " (" ++ entry.1.type ++ ")"] ++
              (codeBy entry.1 entry.2).map indented ++ [""]) ++ closingLines) ∧
        (workflow.warningsWith registry).filter (·.subject = .types) =
          (served.filter (·.2.isNone)).map
            fun entry => .unhandledType entry.1.name entry.1.type := by
  refine ⟨fun type kind => ⟨Registry.resolve?_standard_eq_some_iff.symm,
    Kind.ofType?_eq_some_iff⟩, fun type => Registry.resolve?_standard_eq_none_iff.symm,
    fun kind other => ⟨Kind.emitter_injective, congrArg Kind.emitter⟩,
    fun workflow registry => ⟨workflow.served registry, workflow.map_fst_served registry,
      fun entry hmem => serves_of_mem_served hmem, workflow.compileWith_eq registry, ?_⟩⟩
  rw [filter_subject_warningsWith]
  exact workflow.typeWarnings_eq registry

/-- The standard registry with one type that is not served by its last segment. -/
def withShop : Registry := Registry.standard.register "shop.set" Kind.function.emitter

/-- Types with dots in odd places. -/
def dotted : Workflow where
  nodes := [{ name := "Ask", type := "..httpRequest" }, { name := "Note", type := "httpRequest." },
    { name := "Fill", type := "shop.set" }, { name := "Note", type := "httpRequest." }]

theorem dotted_recognised :
    withShop.Serves "shop.set" Kind.function.emitter ∧
    (∀ emitter, ¬ withShop.Serves "httpRequest." emitter) ∧
    ∃ served : List (Node × Option Emitter), served.map Prod.fst = dotted.nodes ∧
      (∀ entry ∈ served, ∀ emitter,
        entry.2 = some emitter ↔ withShop.Serves entry.1.type emitter) ∧
      ((served.filter (·.2.isNone)).map fun entry =>
          Warning.unhandledType entry.1.name entry.1.type) =
        [.unhandledType "Note" "httpRequest.", .unhandledType "Note" "httpRequest."] := by
  have hshop : withShop.resolve? "shop.set" = some Kind.function.emitter := by
    rw [Registry.resolve?, withShop, Registry.register, OrderedMap.get?_insert, if_pos rfl,
      Option.some_or]
  have hdot : withShop.resolve? "httpRequest." = none :=
    Option.isNone_iff_eq_none.1 (by decide +kernel)
  have hwarnings : (dotted.warningsWith withShop).filter (·.subject = .types) =
      [.unhandledType "Note" "httpRequest.", .unhandledType "Note" "httpRequest."] := by
    decide +kernel
  obtain ⟨served, hnodes, hserves, -, hsame⟩ := types_recognised_alike.2.2.2 dotted withShop
  refine ⟨Registry.resolve?_eq_some_iff.1 hshop, fun emitter h => ?_,
    served, hnodes, hserves, hsame.symm.trans hwarnings⟩
  rw [← Registry.resolve?_eq_some_iff, hdot] at h
  cases h

end Workflow

end FlowScript
