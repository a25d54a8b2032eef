import FlowScript.Proofs.Cli.CommandLine
import FlowScript.Proofs.Cli.Stages

/-!
# Every run has one source

To load a workflow without a source is an error of its own, with its own wording. As a command line
that is accepted names exactly one source, loading never comes to that, and no other error has the
same wording; so no run ends with it (`one_source_in_every_run`).
-/

namespace FlowScript

open Session

namespace Cli

/-! ### Wordings -/

theorem head?_append {text : String} {c : Char} (h : text.toList.head? = some c) (rest : String) :
    (text ++ rest).toList.head? = some c := by
  rw [String.toList_append, List.head?_append, h, Option.some_or]

namespace RunError

/-- The wordings of the other errors begin with other letters. -/
theorem message_ne_of_ne {error : RunError} (h : error ≠ .noSource) :
    error.message ≠ noSource.message := by
  have hother : ∃ c, c ≠ 'e' ∧ error.message.toList.head? = some c := by
    cases error with
    | unread what fault =>
      exact ⟨'r', by decide, head?_append (head?_append (head?_append (by decide +kernel) _) _) _⟩
    | unwritten path fault =>
      exact ⟨'w', by decide, head?_append (head?_append (head?_append (by decide +kernel) _) _) _⟩
    | noWorkflow error => exact ⟨'F', by decide, head?_append (by decide +kernel) _⟩
    | store error =>
      cases error with
      | configuration text => exact ⟨'c', by decide, head?_append (by decide +kernel) _⟩
      | connection text => exact ⟨'c', by decide, head?_append (by decide +kernel) _⟩
      | server status body =>
        exact ⟨'s', by decide, head?_append (head?_append (head?_append (by decide +kernel) _) _) _⟩
      | serialization text => exact ⟨'s', by decide, head?_append (by decide +kernel) _⟩
    | noSource => exact absurd rfl h
  obtain ⟨c, hc, hfirst⟩ := hother
  intro heq
  have hsame : noSource.message.toList.head? = some 'e' := by decide +kernel
  rw [heq, hsame, Option.some.injEq] at hfirst
  exact hc hfirst.symm

/-- Every other error begins with another letter, or is worded otherwise. The texts that are put
into a message stand behind its first words. -/
theorem ending_ne_of_ne {error : RunError} (h : error ≠ .noSource) :
    error.ending "" ≠ noSource.ending "" := by
  intro heq
  have hnotes := congrArg Ending.notes heq
  simp only [ending, String.empty_append, String.append_left_inj, String.append_right_inj] at hnotes
  exact message_ne_of_ne h hnotes

end RunError

end Cli

/-! ### Results that do not occur -/

/-- A session never has a certain result, whatever it finds outside. -/
def Session.Avoids {α : Type} (session : Session α) (bad : α) : Prop :=
  ∀ world, (session.play world).1 ≠ bad

/-- What comes last decides the result, so a session avoids a result if its last part does. -/
theorem Session.avoids_bind {α β : Type} {session : Session α} {f : α → Session β} {bad : β}
    (h : ∀ a, (f a).Avoids bad) : (session >>= f).Avoids bad := by
  intro world
  rw [play_bind]
  exact h _ _

namespace Cli

/-- The ending of a run that has no source. -/
def unsourced : Ending := RunError.noSource.ending ""

/-- A run that ends in another way than by an error is none without a source. -/
theorem avoids_done {ending : Ending} (h : ending.exitCode ≠ 1) :
    (done ending).Avoids unsourced := by
  rintro world heq
  exact h (congrArg Ending.exitCode heq)

/-- A failed attempt ends with its own error, which is another one, and a successful one goes on. -/
theorem avoids_proceed {α : Type} {attempt : Session (Except RunError α)}
    {next : α → Session Ending} (hattempt : attempt.Avoids (.error .noSource))
    (hnext : ∀ result, (next result).Avoids unsourced) :
    (proceed attempt next).Avoids unsourced := by
  intro world
  cases hresult : (attempt.play world).1 with
  | error error =>
    rw [play_proceed_of_error hresult]
    refine RunError.ending_ne_of_ne ?_
    rintro rfl
    exact hattempt world hresult
  | ok result =>
    rw [play_proceed_of_ok hresult]
    exact hnext result _

theorem textOf_ne_noSource (what : String) (bytes : List UInt8) :
    textOf what bytes ≠ .error .noSource := by
  rw [textOf]
  split <;> simp

/-- No reading of files gives this error: it is made where sources are loaded, and nowhere else. -/
theorem avoids_readText (what path : String) : (readText what path).Avoids (.error .noSource) := by
  intro world
  rw [readText, play]
  cases world.folder.read path with
  | error fault => simp [play]
  | ok bytes => exact textOf_ne_noSource _ _

theorem avoids_readCode (codeFile : Option String) :
    (readCode codeFile).Avoids (.error .noSource) := by
  cases codeFile with
  | none => exact fun world => textOf_ne_noSource _ _
  | some path => exact avoids_readText "" path

theorem avoids_loadFile (path : String) : (loadFile path).Avoids (.error .noSource) := by
  intro world
  rw [loadFile, play_bind]
  have hread := avoids_readText "workflow file " path world
  cases hresult : ((readText "workflow file " path).play world).1 with
  | error error =>
    rw [hresult] at hread
    exact hread ∘ fun h => congrArg Except.error (Except.error.inj h)
  | ok text =>
    change (Workflow.ofText text).mapError RunError.noWorkflow ≠ _
    cases Workflow.ofText text <;> simp [Except.mapError]

theorem avoids_askStore {α : Type} (environment : Environment)
    (question : Store.Client → Http.Dialogue (Except Store.Error α)) :
    (askStore environment question).Avoids (.error .noSource) := by
  rw [askStore]
  split
  · intro world
    simp [play, pure]
  · refine avoids_bind fun answer world => ?_
    cases answer <;> simp [Except.mapError, play, pure]

/-- Loading does not fail for want of a source if there is one. -/
theorem avoids_load {source : Source} (h : source.workflowId.isSome ∨ source.file.isSome)
    (environment : Environment) : (source.load environment).Avoids (.error .noSource) := by
  rw [Source.load]
  split
  · exact avoids_loadFile _
  · exact avoids_askStore _ _
  · next hfile hid =>
    rw [hfile, hid] at h
    simp at h

theorem warningNotes_head (conversion : Conversion) :
    warningNotes conversion = "" ∨ (warningNotes conversion).toList.head? = some 'w' := by
  rw [warningNotes, printLines]
  cases conversion.warnings with
  | nil => exact .inl rfl
  | cons warning rest =>
    right
    rw [List.map_cons, List.map_cons, String.join_cons]
    exact head?_append (head?_append (head?_append (by decide +kernel) _) _) _

/-- Warnings may stand before the error, and then something else begins the notes. -/
theorem ending_unwritten_ne (conversion : Conversion) (path : String) (fault : FileFault) :
    (RunError.unwritten path fault).ending (warningNotes conversion) ≠ unsourced := by
  rcases warningNotes_head conversion with hnone | hsome
  · rw [hnone]
    exact RunError.ending_ne_of_ne (by simp)
  · intro heq
    have hfirst := head?_append (head?_append (head?_append hsome "Error: ")
      (RunError.unwritten path fault).message) "\n"
    have hnotes : warningNotes conversion ++ "Error: " ++ (RunError.unwritten path fault).message ++
        "\n" = unsourced.notes := congrArg Ending.notes heq
    rw [hnotes] at hfirst
    exact absurd hfirst (by decide +kernel)

/-- Neither a printed conversion nor one that cannot be written ends like a run without a source.
The warnings come first in what it notes, if there are any. -/
theorem avoids_deliver (conversion : Conversion) (output : Option String) :
    (deliver conversion output).Avoids unsourced := by
  intro world
  have hcode : unsourced.exitCode = 1 := rfl
  cases output with
  | none =>
    rw [play_deliver_none]
    exact fun h => Nat.zero_ne_one ((congrArg Ending.exitCode h).trans hcode)
  | some path =>
    cases hwrite : (world.folder.write path (bytesOf conversion)).1 with
    | ok _ =>
      rw [play_deliver_of_written hwrite]
      exact fun h => Nat.zero_ne_one ((congrArg Ending.exitCode h).trans hcode)
    | error fault =>
      rw [play_deliver_of_unwritten hwrite]
      exact ending_unwritten_ne conversion path fault

/-- A run whose command has a source, if it needs one, does not end for want of one. -/
theorem avoids_run {command : Command} (environment : Environment)
    (h : ∀ source, command.source? = some source → source.workflowId.isSome ∨ source.file.isSome) :
    (command.run environment).Avoids unsourced := by
  cases command with
  | convert source refactoring output =>
    refine avoids_proceed (avoids_load (h source rfl) environment) fun workflow => ?_
    exact avoids_bind fun conversion => avoids_deliver conversion output
  | refactor codeFile refactoring =>
    refine avoids_proceed (avoids_readCode codeFile) fun code => ?_
    exact avoids_bind fun refactored => avoids_done Nat.zero_ne_one
  | list options json =>
    refine avoids_proceed (avoids_askStore environment _) fun page => ?_
    split
    · exact avoids_done Nat.zero_ne_one
    · exact avoids_done Nat.zero_ne_one
  | validate source =>
    refine avoids_proceed (avoids_load (h source rfl) environment) fun workflow => ?_
    dsimp only
    split
    · exact avoids_done Nat.zero_ne_one
    · exact avoids_done Nat.zero_ne_one
  | schema => exact avoids_done Nat.zero_ne_one

/-! ### Command lines -/

/-- **A parsed command has a source**, if it is one that takes a source at all. It is what the
command line was refused without. -/
theorem isSome_source_of_parse {words : List String} {command : Command} {source : Source}
    (h : Command.parse words = .ok command) (hsource : command.source? = some source) :
    source.workflowId.isSome ∨ source.file.isSome := by
  rcases givenOnce_of_parse h hsource with ⟨id, rfl, -⟩ | ⟨path, rfl, -⟩
  · exact .inl rfl
  · exact .inr rfl

/-- So no run ends with the error, whatever command its words are for; a command line that is
refused and a crash end with other exit codes. -/
theorem avoids_program (environment : Environment) (words : List String) :
    (program environment words).Avoids unsourced := by
  intro world
  cases hknown : variablesIn environment world.folder with
  | error unsettable =>
    have hcode : (101 : Nat) ≠ 1 := by decide
    rw [(play_program_of_crash hknown words).1]
    exact avoids_done hcode world
  | ok known =>
    cases hparse : Command.parse words with
    | error error =>
      rw [(play_program_of_error hknown hparse).1]
      refine avoids_done ?_ world
      cases error <;> simp [UsageError.ending, UsageError.exitCode]
    | ok command =>
      rw [play_program hknown hparse]
      exact avoids_run _ (fun _ hsource => isSome_source_of_parse hparse hsource) world

/-- **Every run has one source.** A command that needs a workflow is accepted exactly if its words
spell distinct options of the command with values that these can take, in whatever order, and
exactly one of them is a source. Its source is then a workflow of the store or a file, and not both,
as one text of the command line says and no other. So loading never fails for want of a source, and
no run, of any command line, ends with that error. -/
theorem one_source_in_every_run (words : List String) :
    (∀ name texts, name = .convert ∨ name = .validate → words = CommandName.word name :: texts →
      ((∃ command, Command.parse words = .ok command) ↔
        ∃ given, Spelled name (texts.map Word.ofText) given ∧ Admits [] given ∧
          given.countP (fun entry => entry.1 ∈ sourceOptions) = 1)) ∧
    (∀ command source, Command.parse words = .ok command → command.source? = some source →
      ((∃ id, source = { workflowId := some id } ∧ GivenOnce .workflowId id words.tail) ∨
        ∃ path, source = { file := some path } ∧ GivenOnce .file path words.tail) ∧
      ∀ environment world, ((source.load environment).play world).1 ≠ .error .noSource) ∧
    ∀ environment world,
      ((program environment words).play world).1 ≠ RunError.noSource.ending "" := by
  refine ⟨?_, fun command source hparse hsource => ?_, fun environment world => ?_⟩
  · rintro name texts hname rfl
    exact exists_parse_iff hname texts
  · have hsome := isSome_source_of_parse hparse hsource
    exact ⟨givenOnce_of_parse hparse hsource, avoids_load hsome⟩
  · exact avoids_program environment words world

/-- A value that looks like a source does not count as one, and a hyphen can be a file. -/
theorem hyphen_is_source :
    let words := ["convert", "-oout.js", "--no-ai", "--file", "-", "--intent=--file=x", "--"]
    (∃ refactoring output, Command.parse words =
      .ok (.convert { file := some "-" } refactoring output)) ∧
    GivenOnce .file "-" words.tail ∧
    ((program (.ofList []) words).play { server := .under "" [] }).1 ≠
      RunError.noSource.ending "" := by
  intro words
  obtain ⟨-, hsource, hruns⟩ := one_source_in_every_run words
  have hparse : Command.parse words = .ok (.convert { file := some "-" }
      { intent := some "--file=x", noAssistant := true } (some "out.js")) := by decide +kernel
  refine ⟨⟨_, _, hparse⟩, ?_, hruns _ _⟩
  rcases (hsource _ _ hparse rfl).1 with ⟨id, heq, -⟩ | ⟨path, heq, hgiven⟩
  · cases heq
  · cases heq
    exact hgiven

end Cli

end FlowScript
