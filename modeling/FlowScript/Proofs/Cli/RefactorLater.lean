import FlowScript.Proofs.Cli.Stages

/-!
# Refactoring later

A program can be refactored while it is made, or printed, and then refactored from the input. With
the rules alone both come to the same. What is printed has a line feed behind the program, and
the rules do not look across it (`applyRules_append_lineFeed`); what is read from the input is
what was printed (`textOf_encode`).
-/

namespace FlowScript

open Http Session

/-- There is nothing in an empty text to replace. -/
theorem applyRules_empty (intent : String) : applyRules "" intent = "" := by
  rw [applyRules_eq]
  split
  · rfl
  · rfl

/-- A line feed at the end stays where it is. -/
theorem applyRules_lineFeed (code intent : String) :
    applyRules (code ++ "\n") intent = applyRules code intent ++ "\n" := by
  have h := applyRules_append_lineFeed code "" intent
  rwa [applyRules_empty, String.append_empty, String.append_empty] at h

namespace Cli

variable {environment : Environment} {world : World} {path text : String} {workflow : Workflow}

/-! ### Without an intent, and without an assistant -/

/-- Without an intent a conversion is the program as it is compiled. -/
theorem conversionOf_plain {refactoring : Refactoring} (h : refactoring.intent = none) :
    conversionOf environment refactoring workflow = .done
      { code := workflow.compile, nodeCount := workflow.nodes.length, refactored := false,
        warnings := workflow.warnings } := by
  rw [conversionOf, intent?_of_none h]
  rfl

/-- With an intent and without an assistant, it is the program after the rules. No request is made
for either. -/
theorem conversionOf_ruled :
    conversionOf environment { intent := some text, noAssistant := true } workflow = .done
      { code := applyRules workflow.compile text, nodeCount := workflow.nodes.length,
        refactored := text ≠ "", warnings := workflow.warnings } := by
  rw [conversionOf, intent?_of_some rfl, Workflow.convert_some, refactorerFor_of_not_use rfl,
    Refactorer.refactor_rulesOnly]
  rfl

/-- A conversion that asks nobody prints its code, and leaves the world as it is. -/
theorem play_convert_of_done {refactoring : Refactoring} {conversion : Conversion}
    (h : ((Source.load { file := some path } environment).play world).1 = .ok workflow)
    (hmade : conversionOf environment refactoring workflow = .done conversion) :
    ((Command.convert { file := some path } refactoring none).run environment).play world =
      ({ output := conversion.code ++ "\n", notes := warningNotes conversion }, world) := by
  have hworld : ((Source.load { file := some path } environment).play world).2 = world :=
    world_loadFile path world
  rw [play_convert_of_loaded h, hmade, play_deliver_none, hworld]
  rfl

/-- A conversion that does not fail has loaded its workflow. -/
theorem loaded_of_exitCode {source : Source} {refactoring : Refactoring} {output : Option String}
    (h : (((Command.convert source refactoring output).run environment).play world).1.exitCode =
      0) : ∃ workflow, ((source.load environment).play world).1 = .ok workflow := by
  cases hload : ((source.load environment).play world).1 with
  | ok workflow => exact ⟨workflow, rfl⟩
  | error error =>
    rw [Command.run, convert, play_proceed_of_error hload] at h
    cases h

/-- Code from the input is printed as the rules give it. -/
theorem play_refactor_ruled {code : String} (h : world.input = Text.Utf8.encode code.toList) :
    ((Command.refactor none { intent := some text, noAssistant := true }).run environment).play
      world = ({ output := applyRules code text }, { world with input := [] }) := by
  have hread : ((readCode none).play world).1 = .ok code := by
    change textOf "code from stdin" world.input = .ok code
    rw [h, textOf_encode]
  rw [Command.run, refactor, play_proceed_of_ok hread]
  dsimp only
  rw [intent?_of_some rfl, Option.getD_some, refactorerFor_of_not_use rfl,
    Refactorer.refactor_rulesOnly]
  rfl

/-! ### Both ways -/

/-- The world that a run leaves, with what it printed as the input. -/
def piped (run : Ending × World) : World :=
  { run.2 with input := Text.Utf8.encode run.1.output.toList }

/-- **Now or later**: for all files, intents, variables, servers and inputs. If a program is made
from a file and printed, then to refactor what was printed gives the same output as to refactor
the program while it is made; and neither fails. -/
theorem refactor_printed_eq_convert_refactored (environment : Environment) (path text : String)
    (plainWords laterWords directWords : List String) (kept : Bool) (world : World)
    (hplain : Command.parse plainWords =
      .ok (.convert { file := some path } { noAssistant := kept } none))
    (hlater : Command.parse laterWords =
      .ok (.refactor none { intent := some text, noAssistant := true }))
    (hdirect : Command.parse directWords =
      .ok (.convert { file := some path } { intent := some text, noAssistant := true } none))
    (haccepted : ((program environment plainWords).play world).1.exitCode = 0) :
    let printed := (program environment plainWords).play world
    let later := (program environment laterWords).play (piped printed)
    let direct := (program environment directWords).play world
    later.1.exitCode = 0 ∧ direct.1.exitCode = 0 ∧ later.1.output = direct.1.output := by
  cases hknown : variablesIn environment world.folder with
  | error unsettable =>
    -- a run that is stopped by its variables does not print anything
    rw [(play_program_of_crash hknown plainWords).1] at haccepted
    cases haccepted
  | ok known =>
    rw [play_program hknown hplain] at haccepted
    obtain ⟨workflow, hload⟩ := loaded_of_exitCode haccepted
    have hprinted := (play_program hknown hplain).trans
      (play_convert_of_done hload (conversionOf_plain rfl))
    have hdirect := (play_program hknown hdirect).trans
      (play_convert_of_done hload conversionOf_ruled)
    rw [hprinted, hdirect]
    dsimp only
    have hpiped (ending : Ending) :
        variablesIn environment (piped (ending, world)).folder = .ok known := hknown
    -- here the rules meet the printed line feed, which the direct way adds behind them
    rw [play_program (hpiped _) hlater, play_refactor_ruled rfl, applyRules_lineFeed]
    exact ⟨rfl, rfl, rfl⟩

/-- A file with a workflow whose code has a word for the rules. -/
def letFlow : World where
  server := .under "localhost" []
  folder := { files := [(["flow.json"], Text.Utf8.encode
    ("\x7b\"nodes\":[\x7b\"name\":\"A\",\"type\":\"function\"," ++
      "\"parameters\":\x7b\"functionCode\":\"let x;\"\x7d\x7d]\x7d").toList)] }

/-- The last line feed is there in both ways. -/
theorem letFlow_refactored :
    ((program (.ofList []) ["refactor", "--no-ai", "--intent=use const"]).play
        (piped ((program (.ofList []) ["convert", "--file", "flow.json"]).play letFlow))).1.output =
      ((program (.ofList []) ["convert", "--intent", "use const", "--no-ai",
        "--file=flow.json"]).play letFlow).1.output := by
  have hsame := refactor_printed_eq_convert_refactored (.ofList []) "flow.json" "use const"
    ["convert", "--file", "flow.json"] ["refactor", "--no-ai", "--intent=use const"]
    ["convert", "--intent", "use const", "--no-ai", "--file=flow.json"] false letFlow
    (by decide +kernel) (by decide +kernel) (by decide +kernel) (by decide +kernel)
  exact hsame.2.2

end Cli

end FlowScript
