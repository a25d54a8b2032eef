import FlowScript.Validation

/-!
# What warnings are on

Warnings come from four passes, one behind the other, and each pass warns of one subject only.
So the warnings of a workflow on a subject are those of one pass, in its order
(`filter_subject_warningsWith`), and what is proved of a pass holds of the warnings.
-/

namespace FlowScript

/-- The subjects of warnings, in the order of the passes. -/
inductive Subject where
  /-- that there is anything to run -/
  | workflow
  /-- the names of nodes -/
  | names
  /-- the connections between nodes -/
  | connections
  /-- the types of nodes -/
  | types
deriving DecidableEq

/-- What a warning is on. -/
def Warning.subject : Warning → Subject
  | .emptyWorkflow => .workflow
  | .duplicateName _ => .names
  | .identifierCollision _ _ => .names
  | .unknownSource _ _ => .connections
  | .unknownTarget _ _ _ => .connections
  | .outOfOrder _ _ => .connections
  | .unhandledType _ _ => .types

namespace Workflow

variable {workflow : Workflow} {registry : Registry} {warning : Warning}

/-- The warnings of the pass on a subject. -/
def warningsOn (workflow : Workflow) (registry : Registry) : Subject → List Warning
  | .workflow => workflow.emptyWarnings
  | .names => workflow.nameWarnings
  | .connections => workflow.connectionWarnings
  | .types => workflow.typeWarnings registry

theorem subject_of_edgeWarning? {places : OrderedMap Nat} {edge : String × Target}
    (h : workflow.edgeWarning? places edge = some warning) : warning.subject = .connections := by
  unfold edgeWarning? at h
  split at h
  · cases h
  · rw [← Option.some.inj h]
    rfl
  · split at h
    · rw [← Option.some.inj h]
      rfl
    · cases h

/-- Every part of the warnings stays with its subject, so a warning tells which part it comes
from. -/
theorem subject_of_mem_warningsOn {subject : Subject}
    (h : warning ∈ workflow.warningsOn registry subject) : warning.subject = subject := by
  cases subject with
  | workflow =>
    rw [warningsOn, emptyWarnings] at h
    split at h
    · rw [List.mem_singleton.1 h]
      rfl
    · cases h
  | names =>
    rw [warningsOn, nameWarnings] at h
    rcases List.mem_append.1 h with h | h <;> obtain ⟨_, -, rfl⟩ := List.mem_map.1 h <;> rfl
  | connections =>
    rw [warningsOn, connectionWarnings] at h
    rcases List.mem_append.1 h with h | h
    · obtain ⟨_, -, rfl⟩ := List.mem_map.1 h
      rfl
    · obtain ⟨edge, -, hedge⟩ := List.mem_filterMap.1 h
      exact subject_of_edgeWarning? hedge
  | types =>
    rw [warningsOn, typeWarnings] at h
    obtain ⟨_, -, rfl⟩ := List.mem_map.1 h
    rfl

/-- Picking one subject from a part gives the whole part, or nothing. -/
theorem filter_warningsOn (workflow : Workflow) (registry : Registry) (subject other : Subject) :
    (workflow.warningsOn registry other).filter (·.subject = subject) =
      if other = subject then workflow.warningsOn registry subject else [] := by
  split
  · next h =>
    rw [h, List.filter_eq_self]
    exact fun warning hmem => decide_eq_true (subject_of_mem_warningsOn hmem)
  · next h =>
    rw [List.filter_eq_nil_iff]
    intro warning hmem
    rw [decide_eq_true_eq, subject_of_mem_warningsOn hmem]
    exact h

theorem warningsWith_eq (workflow : Workflow) (registry : Registry) :
    workflow.warningsWith registry = workflow.warningsOn registry .workflow ++
      workflow.warningsOn registry .names ++ workflow.warningsOn registry .connections ++
        workflow.warningsOn registry .types :=
  rfl

/-- The warnings on a subject are those of its pass. -/
theorem filter_subject_warningsWith (workflow : Workflow) (registry : Registry)
    (subject : Subject) :
    (workflow.warningsWith registry).filter (·.subject = subject) =
      workflow.warningsOn registry subject := by
  simp only [warningsWith_eq, List.filter_append, filter_warningsOn]
  cases subject <;> simp

/-- So whether there is a warning is a matter of the part of its subject alone. -/
theorem mem_warningsWith_iff :
    warning ∈ workflow.warningsWith registry ↔
      warning ∈ workflow.warningsOn registry warning.subject := by
  rw [← filter_subject_warningsWith, List.mem_filter]
  exact (and_iff_left (decide_eq_true rfl)).symm

end Workflow

end FlowScript
