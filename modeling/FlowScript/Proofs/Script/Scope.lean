import FlowScript.Script.Program

/-!
# What a scope records

Identifiers are bound one after the other, and a scope keeps track of them: which node bound an
identifier first, and which were bound again. Both can be told from the list of all bindings
(`Scope.Records`). One more binding keeps that so (`Scope.Records.declare`), and hence it holds
for the scope of a whole program (`Workflow.records_scope`).
-/

namespace FlowScript

namespace Scope

/-! ### One more binding -/

/-- Who has bound an identifier first stays its owner. -/
theorem owner?_declare (scope : Scope) (identifier node other : String) :
    (scope.declare identifier node).owner? other =
      (scope.owner? other).or (if other = identifier then some node else none) := by
  rw [declare]
  cases howner : scope.owner? identifier with
  | some first =>
    by_cases hother : other = identifier
    · subst hother
      rw [howner, Option.some_or]
      exact howner
    · rw [if_neg hother, Option.or_none]
      rfl
  | none =>
    have hfind : ([(identifier, node)].find? fun entry => entry.1 == other).map Prod.snd =
        if other = identifier then some node else none := by
      by_cases hother : other = identifier
      · simp [hother]
      · simp [hother, Ne.symm hother]
    rw [owner?, List.find?_append, ← hfind, owner?]
    cases scope.owners.find? fun entry => entry.1 == other <;> rfl

/-- An identifier that has an owner already is noted as bound again, each time. -/
theorem redeclared_declare (scope : Scope) (identifier node : String) :
    (scope.declare identifier node).redeclared =
      scope.redeclared ++ if (scope.owner? identifier).isSome then [identifier] else [] := by
  rw [declare]
  cases scope.owner? identifier <;> simp

/-! ### All bindings -/

/-- What a scope tells of the bindings made in it, which are given in order with their nodes. -/
structure Records (scope : Scope) (bindings : List (String × String)) : Prop where
  /-- an identifier belongs to the node that bound it first -/
  owner : ∀ identifier, scope.owner? identifier = bindings.lookup identifier
  /-- an identifier is bound again each time but the first -/
  again : ∀ identifier,
    scope.redeclared.count identifier = (bindings.map Prod.fst).count identifier - 1

theorem records_nil : Records { } [] := ⟨fun _ => rfl, fun _ => rfl⟩

theorem isSome_lookup_iff {bindings : List (String × String)} {identifier : String} :
    (bindings.lookup identifier).isSome = true ↔ identifier ∈ bindings.map Prod.fst := by
  rw [List.lookup_isSome_iff, List.mem_map]
  constructor
  · rintro ⟨binding, hmem, heq⟩
    exact ⟨binding, hmem, (eq_of_beq heq).symm⟩
  · rintro ⟨binding, hmem, rfl⟩
    exact ⟨binding, hmem, beq_self_eq_true _⟩

/-- One more binding. -/
theorem Records.declare {scope : Scope} {bindings : List (String × String)}
    (h : scope.Records bindings) (identifier node : String) :
    (scope.declare identifier node).Records (bindings ++ [(identifier, node)]) := by
  constructor
  case owner =>
    intro other
    rw [owner?_declare, h.owner, List.lookup_append]
    congr 1
    by_cases hother : other = identifier
    · simp [hother]
    · simp [List.lookup_cons, hother, beq_false_of_ne hother]
  case again =>
    intro other
    rw [redeclared_declare, h.owner, List.count_append, h.again, List.map_append,
      List.count_append]
    by_cases hother : other = identifier
    · subst hother
      by_cases hbound : other ∈ bindings.map Prod.fst
      · have hpos : 0 < (bindings.map Prod.fst).count other := List.count_pos_iff.2 hbound
        rw [if_pos (isSome_lookup_iff.2 hbound)]
        simp only [List.map_cons, List.map_nil, List.count_cons_self, List.count_nil]
        omega
      · rw [if_neg (mt isSome_lookup_iff.1 hbound), List.count_eq_zero.2 hbound]
        simp
    · have hsingle : [identifier].count other = 0 :=
        List.count_eq_zero.2 (by simpa using hother)
      rw [List.map_cons, List.map_nil, hsingle]
      split
      · rw [hsingle]
        rfl
      · rfl

/-- **Run.** Several bindings of one node are recorded if the ones before were; the induction is on
them, by the step of one binding. -/
theorem Records.declareAll {scope : Scope} {bindings : List (String × String)}
    (h : scope.Records bindings) (identifiers : List String) (node : String) :
    (scope.declareAll identifiers node).Records
      (bindings ++ identifiers.map fun identifier => (identifier, node)) := by
  induction identifiers generalizing scope bindings with
  | nil => simpa [Scope.declareAll] using h
  | cons identifier rest ih =>
    have hrest := ih (h.declare identifier node)
    rwa [List.append_assoc, List.singleton_append] at hrest

/-- An identifier is among those bound again exactly if it was bound at least twice. -/
theorem Records.mem_redeclared_iff {scope : Scope} {bindings : List (String × String)}
    (h : scope.Records bindings) (identifier : String) :
    identifier ∈ scope.redeclared ↔ 2 ≤ (bindings.map Prod.fst).count identifier := by
  rw [← List.count_pos_iff, h.again]
  omega

end Scope

/-! ### Programs -/

namespace Workflow

/-- What the nodes of a workflow bind, in order, with the names of the nodes. -/
def bindings (workflow : Workflow) (registry : Registry) : List (String × String) :=
  workflow.nodes.flatMap fun node =>
    (registry.emit node).bindings.map fun identifier => (identifier, node.name)

end Workflow

/-- Node after node, what is bound goes behind what was bound before. -/
theorem Draft.records_foldl_add (registry : Registry) (nodes : List Node) (draft : Draft)
    {bound : List (String × String)} (h : draft.scope.Records bound) :
    (nodes.foldl (Draft.add registry) draft).scope.Records
      (bound ++ Workflow.bindings { nodes } registry) := by
  induction nodes generalizing draft bound with
  | nil => simpa [Workflow.bindings] using h
  | cons node rest ih =>
    have hnode := h.declareAll (registry.emit node).bindings node.name
    have hrest := ih (draft.add registry node) hnode
    rwa [List.append_assoc] at hrest

/-- The scope of a program records what its nodes bind. -/
theorem Workflow.records_scope (workflow : Workflow) (registry : Registry) :
    (workflow.scope registry).Records (workflow.bindings registry) :=
  Draft.records_foldl_add registry workflow.nodes { lines := openingLines, scope := { } }
    Scope.records_nil

end FlowScript
