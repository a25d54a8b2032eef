import FlowScript.Proofs.Cli.AllOrNothing

/-!
# From a file or from the store

It does not matter to a run where its workflow comes from. A document in a file and the same
document in a reply of the store are read alike (`Offered.play_file`, `Offered.play_store`);
behind that, the two runs differ only in the request that the store has taken down, which
nobody looks at. A document that is no workflow is refused with the same words, behind the name
of the place.
-/

namespace FlowScript

open Http Session

namespace Cli

/-- What is done with a workflow, wherever it comes from. -/
inductive Task where
  /-- make a program from it, and write it to a file or to the output -/
  | convert (refactoring : Refactoring) (output : Option String)
  /-- warn of what is odd about it -/
  | validate

/-- The command for a task with a workflow from a place. -/
def Task.command : Task → Source → Command
  | .convert refactoring output, source => .convert source refactoring output
  | .validate, source => .validate source

/-- A task loads its workflow and goes on in a way that does not depend on the place. -/
theorem Task.exists_run_eq (task : Task) (environment : Environment) :
    ∃ next, ∀ source, (task.command source).run environment =
      proceed (source.load environment) next := by
  cases task with
  | convert refactoring output => exact ⟨_, fun _ => rfl⟩
  | validate => exact ⟨_, fun _ => rfl⟩

/-! ### Loading -/

/-- What the store says of a document is what is wrong with its text. -/
theorem ofReply_document (url text : String) :
    Store.ofReply Workflow.decoder url (.answer 200 (Text.Utf8.encode text.toList) true) =
      (Workflow.ofText text).mapError fun error => .serialization error.detail := by
  rw [Store.ofReply, Text.Utf8.tolerant_encode, Workflow.ofText]
  change (Workflow.decoder.parse (Json.Source.ofString text)).mapError _ = _
  cases Workflow.decoder.parse (Json.Source.ofString text) <;> rfl

/-- The text of a document is at hand in two places: in a file, and in a store that can be
asked. -/
structure Offered (environment : Environment) (world : World) (path id text : String)
    (request : Request) : Prop where
  /-- the file holds the text -/
  file : world.folder.read path = .ok (Text.Utf8.encode text.toList)
  /-- the settings of the store are valid, and this is the request for the workflow -/
  asked : ∃ client, Store.Client.ofEnvironment environment = .ok client ∧
    prepareGet (client.settings.apiUrl ++ ("/workflows/" ++ id)) [] client.settings.apiKey
      client.settings.timeout = .ok request
  /-- the request reaches the server -/
  reached : world.server.isReached request = true

/-- The reply that holds a document. -/
def documentReply (text : String) : Reply := .answer 200 (Text.Utf8.encode text.toList) true

/-- The world in which the server has one more reply to give, before all others. -/
def replyingFirst (world : World) (reply : Reply) : World :=
  { world with server := { world.server with replies := reply :: world.server.replies } }

/-- A reply that is put before the others is the answer to the next request, and what the server was
asked before does not matter. -/
theorem answer_replyingFirst {world : World} {request : Request} (reply : Reply)
    (h : world.server.isReached request = true) :
    (replyingFirst world reply).server.answer request =
      (reply, { world.server with received := world.server.received ++ [request] }) := by
  have hreached : (replyingFirst world reply).server.isReached request = true := h
  rw [Dialogue.Server.answer, if_pos hreached]
  rfl

namespace Offered

variable {environment : Environment} {world : World} {path id text : String} {request : Request}

/-- A run with a file reads the document from it and asks nobody. -/
theorem play_file (h : Offered environment world path id text request) :
    (Source.load { file := some path } environment).play world =
      ((Workflow.ofText text).mapError .noWorkflow, world) := play_loadFile h.file

theorem exchanges_file (world : World) :
    (Source.load { file := some path } environment).exchanges world = [] :=
  ((silent_readText _ _).bind fun _ => silent_done _) world

/-- Asking the store for a workflow is one request. -/
theorem load_store_eq (h : Offered environment world path id text request) :
    Source.load { workflowId := some id } environment =
      .ask request fun reply => .done
        ((Store.ofReply Workflow.decoder request.url.text reply).mapError .store) := by
  obtain ⟨client, hclient, hrequest⟩ := h.asked
  change askStore environment (fun client => client.fetch id) = _
  unfold askStore
  rw [hclient]
  dsimp only
  unfold Store.Client.fetch Store.Client.get
  dsimp only
  rw [hrequest]
  rfl

/-- With its reply the store leaves the world as it was, but for the request taken down. -/
theorem play_store (h : Offered environment world path id text request) :
    (Source.load { workflowId := some id } environment).play
        (replyingFirst world (documentReply text)) =
      ((Workflow.ofText text).mapError fun error => .store (.serialization error.detail),
        { world with
          server := { world.server with received := world.server.received ++ [request] } }) := by
  rw [h.load_store_eq, play, answer_replyingFirst _ h.reached]
  dsimp only
  rw [documentReply, ofReply_document]
  cases Workflow.ofText text <;> rfl

/-- A run with an identifier asks the store once and gets the document for an answer. -/
theorem exchanges_store (h : Offered environment world path id text request) :
    (Source.load { workflowId := some id } environment).exchanges
        (replyingFirst world (documentReply text)) = [(request, documentReply text)] := by
  rw [h.load_store_eq, exchanges, answer_replyingFirst _ h.reached]
  rfl

end Offered

/-! ### The two runs -/

/-- The ending of a run that is refused its document. -/
def refusal (place : String) (error : ParseError) : Ending :=
  { exitCode := 1, notes := "Error: " ++ (place ++ error.detail) ++ "\n" }

/-- A document that is no workflow ends a run in the same way from either source, but for the words
in front of the reason. -/
theorem ending_noWorkflow (error : ParseError) :
    (RunError.noWorkflow error).ending "" = refusal "Failed to parse workflow: " error := by
  rw [RunError.ending, String.empty_append]
  rfl

theorem ending_serialization (error : ParseError) :
    (RunError.store (.serialization error.detail)).ending "" =
      refusal "serialization error: " error := by
  rw [RunError.ending, String.empty_append]
  rfl

/-- Behind attempts with the same result, in worlds that are alike, a run goes on alike. -/
theorem proceed_of_alike {α : Type} {first second : Session (Except RunError α)} {result : α}
    {world other : World} (next : α → Session Ending) (hfirst : (first.play world).1 = .ok result)
    (hsecond : (second.play other).1 = .ok result)
    (halike : (first.play world).2.Alike (second.play other).2) :
    ((proceed first next).play world).1 = ((proceed second next).play other).1 ∧
      ((proceed first next).play world).2.folder = ((proceed second next).play other).2.folder ∧
        ∃ sent, (proceed first next).exchanges world = first.exchanges world ++ sent ∧
          (proceed second next).exchanges other = second.exchanges other ++ sent := by
  obtain ⟨hresult, hsent, hleft⟩ := play_of_alike (next result) halike
  rw [play_proceed_of_ok hfirst, play_proceed_of_ok hsecond, exchanges_proceed_of_ok hfirst,
    exchanges_proceed_of_ok hsecond]
  exact ⟨hresult, hleft.folder, _, rfl, congrArg (_ ++ ·) hsent.symm⟩

namespace Offered

variable {environment : Environment} {world : World} {path id text : String} {request : Request}

/-- A document that is a workflow leads to the same run from either place. -/
theorem runs_of_ok (h : Offered environment world path id text request) {workflow : Workflow}
    (htext : Workflow.ofText text = .ok workflow) (task : Task) :
    let fromFile := (task.command { file := some path }).run environment
    let fromStore := (task.command { workflowId := some id }).run environment
    let stored := replyingFirst world (documentReply text)
    (fromFile.play world).1 = (fromStore.play stored).1 ∧
      (fromFile.play world).2.folder = (fromStore.play stored).2.folder ∧
        fromStore.exchanges stored = (request, documentReply text) :: fromFile.exchanges world := by
  intro fromFile fromStore stored
  obtain ⟨next, hnext⟩ := task.exists_run_eq environment
  have hfile := h.play_file
  have hstore := h.play_store
  rw [htext] at hfile hstore
  have halike : World.Alike world
      { world with
        server := { world.server with received := world.server.received ++ [request] } } :=
    ⟨rfl, rfl, rfl, rfl⟩
  obtain ⟨hending, hfolder, sent, hfirst, hsecond⟩ := proceed_of_alike next
    (congrArg Prod.fst hfile) (congrArg Prod.fst hstore) (by rw [hfile, hstore]; exact halike)
  rw [exchanges_file, List.nil_append] at hfirst
  rw [h.exchanges_store] at hsecond
  rw [show fromFile = _ from hnext _, show fromStore = _ from hnext _, hfirst]
  exact ⟨hending, hfolder, hsecond⟩

/-- A document that is no workflow is refused in either place, and nothing else happens. -/
theorem runs_of_error (h : Offered environment world path id text request) {error : ParseError}
    (htext : Workflow.ofText text = .error error) (task : Task) :
    let fromFile := (task.command { file := some path }).run environment
    let fromStore := (task.command { workflowId := some id }).run environment
    let stored := replyingFirst world (documentReply text)
    (fromFile.play world).1 = refusal "Failed to parse workflow: " error ∧
      (fromStore.play stored).1 = refusal "serialization error: " error ∧
      (fromFile.play world).2.folder = (fromStore.play stored).2.folder ∧
        fromStore.exchanges stored = (request, documentReply text) :: fromFile.exchanges world := by
  intro fromFile fromStore stored
  obtain ⟨next, hnext⟩ := task.exists_run_eq environment
  have hfile := h.play_file
  have hstore := h.play_store
  rw [htext] at hfile hstore
  have hfirst := congrArg Prod.fst hfile
  have hsecond := congrArg Prod.fst hstore
  rw [show fromFile = _ from hnext _, show fromStore = _ from hnext _,
    play_proceed_of_error hfirst, play_proceed_of_error hsecond,
    exchanges_proceed_of_error hfirst, exchanges_proceed_of_error hsecond, exchanges_file,
    h.exchanges_store, hfile, hstore]
  exact ⟨ending_noWorkflow error, ending_serialization error, rfl, rfl⟩

end Offered

/-- **A file or the store**: for all texts, tasks, files, inputs and replies, and all variables
that can be read and tell of a store. A run with the file and a run with the reply of the store
write the same files, and they send the same requests but for the one to the store. If the text is
a workflow, they end in the same way, which is success or else exit code 1 with nothing on the
output; if not, both are refused it in the same words, behind the name of the place. -/
theorem program_same_from_file_and_store (environment : Environment) (task : Task)
    (fileWords storeWords : List String) (path id text : String) (request : Request)
    (world : World) (known : Environment)
    (hknown : variablesIn environment world.folder = .ok known)
    (hfile : Command.parse fileWords = .ok (task.command { file := some path }))
    (hstore : Command.parse storeWords = .ok (task.command { workflowId := some id }))
    (hoffered : Offered known world path id text request) :
    let fromFile := program environment fileWords
    let fromStore := program environment storeWords
    let stored := replyingFirst world (documentReply text)
    (fromFile.play world).2.folder = (fromStore.play stored).2.folder ∧
    fromStore.exchanges stored = (request, documentReply text) :: fromFile.exchanges world ∧
    ((∃ workflow, Workflow.ofText text = .ok workflow) ∧
        (fromFile.play world).1 = (fromStore.play stored).1 ∧
        ((fromFile.play world).1.exitCode = 0 ∨
          (fromFile.play world).1.exitCode = 1 ∧ (fromFile.play world).1.output = "") ∨
      ∃ error, Workflow.ofText text = .error error ∧
        (fromFile.play world).1 = refusal "Failed to parse workflow: " error ∧
        (fromStore.play stored).1 = refusal "serialization error: " error) := by
  intro fromFile fromStore stored
  have hstored : variablesIn environment stored.folder = .ok known := hknown
  rw [play_program hknown hfile, play_program hstored hstore, exchanges_program hknown hfile,
    exchanges_program hstored hstore]
  cases htext : Workflow.ofText text with
  | ok workflow =>
    obtain ⟨hending, hfolder, hsent⟩ := hoffered.runs_of_ok htext task
    have hsucceeds := Classical.or_iff_not_imp_left.2 fun hfails =>
      allOrNothing_run known (task.command { file := some path }) world hfails
    exact ⟨hfolder, hsent, .inl ⟨⟨workflow, rfl⟩, hending, hsucceeds.imp_right
      fun hfails => ⟨hfails.1, hfails.2.1⟩⟩⟩
  | error error =>
    obtain ⟨hfirst, hsecond, hfolder, hsent⟩ := hoffered.runs_of_error htext task
    exact ⟨hfolder, hsent, .inr ⟨error, rfl, hfirst, hsecond⟩⟩

/-- A file that breaks off, and a server that is the store. -/
def brokenOff : World where
  server := .under "localhost" []
  folder := { files := [(["flow.json"], Text.Utf8.encode "\x7b\"nodes\":[".toList)] }

/-- The store as the only thing that the variables tell. -/
def nearbyStore : Environment := .ofList [("N8N_URL", "http://localhost")]

/-- The place where the text breaks off is the same in the file and in the reply. -/
theorem brokenOff_refused :
    ((program nearbyStore ["validate", "--file", "flow.json"]).play brokenOff).1.notes =
        "Error: Failed to parse workflow: EOF while parsing a list at line 1 column 10\n" ∧
      ((program nearbyStore ["validate", "--workflow-id=7"]).play
        (replyingFirst brokenOff (documentReply "\x7b\"nodes\":["))).1.notes =
        "Error: serialization error: EOF while parsing a list at line 1 column 10\n" := by
  have hask : ((Store.Client.ofEnvironment nearbyStore).toOption.bind fun client =>
      (prepareGet (client.settings.apiUrl ++ ("/workflows/" ++ "7")) [] client.settings.apiKey
        client.settings.timeout).toOption).any brokenOff.server.isReached = true := by
    decide +kernel
  have hbroken : ((Workflow.ofText "\x7b\"nodes\":[").map fun _ => ()).mapError ParseError.detail =
      .error "EOF while parsing a list at line 1 column 10" := by decide +kernel
  obtain ⟨request, hasked, hreached⟩ := (Option.any_eq_true ..).1 hask
  obtain ⟨client, hclient, hrequest⟩ := Option.bind_eq_some_iff.1 hasked
  have hoffered : Offered nearbyStore brokenOff "flow.json" "7" "\x7b\"nodes\":[" request :=
    ⟨rfl, ⟨client, Json.toOption_eq_some_iff.1 hclient, Json.toOption_eq_some_iff.1 hrequest⟩,
      hreached⟩
  have hruns := program_same_from_file_and_store nearbyStore .validate
    ["validate", "--file", "flow.json"] ["validate", "--workflow-id=7"] "flow.json" "7"
    "\x7b\"nodes\":[" request brokenOff nearbyStore rfl (by decide +kernel) (by decide +kernel)
    hoffered
  rcases hruns.2.2 with ⟨⟨workflow, htext⟩, -⟩ | ⟨error, htext, hfirst, hsecond⟩
  · rw [htext] at hbroken
    cases hbroken
  · rw [htext] at hbroken
    have hdetail : error.detail = "EOF while parsing a list at line 1 column 10" :=
      Except.error.inj hbroken
    rw [hfirst, hsecond, refusal, refusal, hdetail]
    exact ⟨by decide +kernel, by decide +kernel⟩

end Cli

end FlowScript
