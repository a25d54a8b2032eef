import FlowScript.Assistant.Client
import FlowScript.Refactor.Rule
import FlowScript.Script.Program
import FlowScript.Validation

/-!
# Conversion

From a workflow to its program, in one go: the warnings, the code, and its refactoring if
there is an intent.
-/

namespace FlowScript

/-! ### Refactoring

Code is refactored in two stages: the rules, and then, if that is wanted and possible,
an assistant. The second stage never makes things fail: if the assistant gives an error,
the code of the first stage is the result. -/

open Http

/-- Someone who can revise code according to an intent, within a kind of computation. -/
structure Reviser (m : Type → Type) where
  /-- whether it is worth asking -/
  isAvailable : Bool
  /-- revises code, or says why not -/
  revise : String → String → m (Except Assistant.Error String)

/-- The assistant that is asked over the network. -/
def Assistant.reviser (settings : Assistant.Settings) : Reviser Dialogue where
  isAvailable := settings.hasCredential
  revise := Assistant.revise settings

/-- A refactoring that is asked for: what is to be done, and whether an assistant may. -/
structure Intent where
  /-- what is to be done -/
  text : String
  /-- whether an assistant may be asked -/
  useAssistant : Bool := true
deriving DecidableEq

/-- Both stages of refactoring; without a reviser, only the first. -/
structure Refactorer (m : Type → Type) where
  /-- the second stage -/
  reviser? : Option (Reviser m) := none

namespace Refactorer

variable {m : Type → Type}

/-- Whether the second stage would run if it were wanted. -/
def isAssistantAvailable (refactorer : Refactorer m) : Bool :=
  refactorer.reviser?.any fun reviser => reviser.isAvailable

/-- A description of the refactorer. -/
def description (refactorer : Refactorer m) : String :=
  Description.record "Refactorer"
    [("rewriter", Description.flag refactorer.reviser?.isSome),
      ("ai_available", Description.flag refactorer.isAssistantAvailable)]

/-- Refactors code. An empty intent changes nothing. -/
def refactor [Monad m] (refactorer : Refactorer m) (code : String) (intent : Intent) : m String :=
  if intent.text = "" then pure code
  else
    let ruled := applyRules code intent.text
    match refactorer.reviser?.filter fun reviser => intent.useAssistant && reviser.isAvailable with
    | none => pure ruled
    | some reviser => do
      match ← reviser.revise ruled intent.text with
      | .ok revised => pure revised
      | .error _ => pure ruled

end Refactorer

/-! ### From a workflow to its program -/

/-- What became of a workflow. -/
structure Conversion where
  /-- the program -/
  code : String
  /-- how many nodes it has code for -/
  nodeCount : Nat
  /-- whether it was refactored -/
  refactored : Bool
  /-- the warnings of the workflow -/
  warnings : List Warning
deriving DecidableEq

/-- Converts a workflow; an empty intent counts as none. -/
def Workflow.convert {m : Type → Type} [Monad m] (workflow : Workflow) (intent? : Option Intent)
    (refactorer : Refactorer m) : m Conversion :=
  let plain : Conversion :=
    { code := workflow.compile, nodeCount := workflow.nodes.length, refactored := false,
      warnings := workflow.warnings }
  match intent?.filter fun intent => intent.text ≠ "" with
  | none => pure plain
  | some intent => do
    let code ← refactorer.refactor plain.code intent
    pure { plain with code, refactored := true }

end FlowScript
