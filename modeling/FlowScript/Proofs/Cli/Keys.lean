import FlowScript.Proofs.Cli.Stages
import FlowScript.Proofs.Cli.VariableFile
import FlowScript.Proofs.Redaction

/-!
# Keys do not show

A run has two keys, one for the store and one for the assistant, each from a variable. Which keys
they are shows in the requests and nowhere else, as long as they can be used at all: with other
keys in their places a run is the same but for the keys (`DifferInKeys.run`), stage by stage.

There is one way around this. The file `.env` is read with the variables at hand, and a value in
it may use any of them, a key as well; then the key is part of another variable, such as the
address of the store. So nothing is promised for a file that looks up a key.
-/

namespace FlowScript

open Http Session

namespace Cli

/-! ### Variables that differ in the keys -/

/-- The variables that hold keys. -/
def keyNames : List String := ["N8N_API_KEY", "OPENAI_API_KEY"]

/-- The keys that the file `.env` looks up. -/
def keysUsed (environment : Environment) (folder : Folder) : List String :=
  (folder.find? ".env").elim [] fun content =>
    (VariableFile.used environment content).filter (· ∈ keyNames)

/-- Whether the store can be asked with a key. -/
def isStoreKey (key : String) : Bool := key ≠ "" && isHeaderValue key

/-- Whether the assistant can be asked with a key. -/
def isAssistantKey (key : String) : Bool :=
  !Text.isAllBlank key && isHeaderValue ("Bearer " ++ key)

/-- Two variables are the same, or both hold keys that can be used. -/
def Interchangeable (usable : String → Bool) (first second : Option String) : Prop :=
  first = second ∨
    ∃ key other, first = some key ∧ second = some other ∧ usable key = true ∧ usable other = true

/-- Two environments differ in the keys at most, and then the keys can be used. -/
structure DifferInKeys (environment other : Environment) : Prop where
  /-- all other variables are the same -/
  others : ∀ name, name ∉ keyNames → environment name = other name
  /-- the store can be asked with both keys -/
  store : Interchangeable isStoreKey (environment "N8N_API_KEY") (other "N8N_API_KEY")
  /-- the assistant can be asked with both keys -/
  assistant : Interchangeable isAssistantKey (environment "OPENAI_API_KEY")
    (other "OPENAI_API_KEY")

theorem Interchangeable.or {usable : String → Bool} {a b : Option String}
    (h : Interchangeable usable a b) (c : Option String) :
    Interchangeable usable (a.or c) (b.or c) := by
  rcases h with rfl | ⟨key, other, rfl, rfl, hkey, hother⟩
  · exact .inl rfl
  · exact .inr ⟨key, other, rfl, rfl, hkey, hother⟩

/-- A key that is set in one environment is set in the other, so neither environment takes a value
from the file where the other does not. -/
theorem Interchangeable.eq_none_iff {usable : String → Bool} {a b : Option String}
    (h : Interchangeable usable a b) : a = none ↔ b = none := by
  rcases h with rfl | ⟨key, other, rfl, rfl, -, -⟩
  · exact Iff.rfl
  · exact iff_of_false (Option.some_ne_none key) (Option.some_ne_none other)

namespace DifferInKeys

variable {environment other : Environment}

/-- A variable from the file is set in both environments or in none, with one value. -/
theorem addNew (name value : String) (h : DifferInKeys environment other) :
    DifferInKeys (environment.addNew name value) (other.addNew name value) where
  others second hsecond := by rw [Environment.addNew, Environment.addNew, h.others second hsecond]
  store := h.store.or _
  assistant := h.assistant.or _

/-- A variable is set in both environments, or in neither: a key that is set can only be another
key. -/
theorem eq_none_iff (name : String) (h : DifferInKeys environment other) :
    environment name = none ↔ other name = none := by
  by_cases hname : name ∈ keyNames
  · rw [keyNames, List.mem_cons, List.mem_singleton] at hname
    rcases hname with rfl | rfl
    · exact h.store.eq_none_iff
    · exact h.assistant.eq_none_iff
  · rw [h.others name hname]

/-- The file `.env` adds the same to both, unless it looks up a key; and if it stops the program,
it does so in both. -/
theorem variablesIn {folder : Folder} (h : DifferInKeys environment other)
    (hunused : keysUsed environment folder = []) :
    VariableFile.Together DifferInKeys (variablesIn environment folder)
      (variablesIn other folder) := by
  rw [keysUsed] at hunused
  rw [Cli.variablesIn, Cli.variablesIn]
  cases hread : folder.find? ".env" with
  | none => exact .inr ⟨_, _, rfl, rfl, h⟩
  | some content =>
    rw [hread] at hunused
    refine VariableFile.loadLines_related addNew eq_none_iff h fun name hname a b halike => ?_
    have hother := List.filter_eq_nil_iff.1 hunused name hname
    exact halike.others name fun hkey => hother (decide_eq_true hkey)

/-! ### Asking the store -/

/-- The store's key as it is sent is there in both environments, or in neither, and can be sent in
both, or in neither. -/
theorem storeKey (h : DifferInKeys environment other) :
    ((environment "N8N_API_KEY").filter (· ≠ "")).isSome =
        ((other "N8N_API_KEY").filter (· ≠ "")).isSome ∧
      ((environment "N8N_API_KEY").filter (· ≠ "")).all isHeaderValue =
        ((other "N8N_API_KEY").filter (· ≠ "")).all isHeaderValue := by
  rcases h.store with hsame | ⟨key, second, hkey, hsecond, husable, hother⟩
  · rw [hsame]
    exact ⟨rfl, rfl⟩
  · rw [isStoreKey, Bool.and_eq_true] at husable hother
    rw [hkey, hsecond, Option.filter_some, Option.filter_some, if_pos husable.1, if_pos hother.1,
      Option.all_some, Option.all_some, husable.2, hother.2]
    exact ⟨rfl, rfl⟩

end DifferInKeys

/-- Two clients of the store differ in the key at most. -/
structure ClientsAlike (client other : Store.Client) : Prop where
  /-- they ask at the same place -/
  baseUrl : client.settings.baseUrl = other.settings.baseUrl
  /-- they wait as long -/
  timeout : client.settings.timeout = other.settings.timeout
  /-- both have a key, or neither has one -/
  apiKey : client.settings.apiKey.isSome = other.settings.apiKey.isSome

variable {environment other : Environment}

/-- The settings of the store are refused with the same words, or they make clients that are
alike. -/
theorem DifferInKeys.clients (h : DifferInKeys environment other) :
    (∃ error, Store.Client.ofEnvironment environment = .error error ∧
      Store.Client.ofEnvironment other = .error error) ∨
    ∃ client second, Store.Client.ofEnvironment environment = .ok client ∧
      Store.Client.ofEnvironment other = .ok second ∧ ClientsAlike client second := by
  obtain ⟨hsome, hall⟩ := h.storeKey
  unfold Store.Client.ofEnvironment Store.Settings.ofEnvironment
  rw [← h.others "N8N_URL" (by decide), ← h.others "FLOWGEN_REQUEST_TIMEOUT_MS" (by decide)]
  dsimp only
  split
  · exact .inl ⟨_, rfl, rfl⟩
  · cases Store.Settings.readTimeout (environment "FLOWGEN_REQUEST_TIMEOUT_MS") with
    | error error => exact .inl ⟨error, rfl, rfl⟩
    | ok timeout =>
      rw [Json.ok_bind, Json.ok_bind, Json.ok_bind, Json.ok_bind]
      unfold Store.Client.ofSettings
      dsimp only
      rw [← hall]
      split
      · exact .inr ⟨_, _, rfl, rfl, rfl, rfl, hsome⟩
      · exact .inl ⟨_, rfl, rfl⟩

/-- Clients that are alike ask the same question. -/
theorem ClientsAlike.get {α : Type} {client second : Store.Client} (h : ClientsAlike client second)
    (decoder : Json.Decoder α) (path : String) (pairs : List (String × String)) :
    SameButKeys (ofDialogue (client.get decoder path pairs))
      (ofDialogue (second.get decoder path pairs)) := by
  have hprepared := prepareGet_redacted (client.settings.apiUrl ++ path) pairs
    client.settings.timeout h.apiKey
  unfold Store.Client.get
  dsimp only
  rw [show second.settings.apiUrl = client.settings.apiUrl by
    rw [Store.Settings.apiUrl, Store.Settings.apiUrl, h.baseUrl], ← h.timeout]
  rcases cases_of_map_eq_map hprepared with ⟨failure, hfirst, hsecond⟩ |
    ⟨request, last, hfirst, hsecond, hsame⟩
  · rw [hfirst, hsecond]
    exact .refl _
  · rw [hfirst, hsecond]
    refine .ask hsame fun reply => ?_
    rw [Request.url_eq_of_redacted hsame]
    exact .refl _

/-- The key is sent with the request and nowhere else, so two askings differ in that header only.
Both keys can be sent: what cannot be sent would be told apart. -/
theorem DifferInKeys.askStore {α : Type} (h : DifferInKeys environment other)
    (decoder : Json.Decoder α) (path : String) (pairs : List (String × String)) :
    SameButKeys (askStore environment fun client => client.get decoder path pairs)
      (askStore other fun client => client.get decoder path pairs) := by
  unfold Cli.askStore
  rcases h.clients with ⟨error, hfirst, hsecond⟩ | ⟨client, second, hfirst, hsecond, hclients⟩
  · rw [hfirst, hsecond]
    exact .refl _
  · rw [hfirst, hsecond]
    exact (hclients.get decoder path pairs).bind fun _ => .refl _

/-- A file is read without a key, and the store is asked with one. -/
theorem DifferInKeys.load (h : DifferInKeys environment other) (source : Source) :
    SameButKeys (source.load environment) (source.load other) := by
  unfold Source.load
  split
  · exact .refl _
  · exact h.askStore _ _ _
  · exact .refl _

/-! ### Asking the assistant -/

/-- Two settings of the assistant differ in the credential at most, and then the credentials can
be sent. -/
structure SettingsAlike (settings other : Assistant.Settings) : Prop where
  /-- the same model is asked -/
  model : settings.model = other.model
  /-- it is asked at the same place -/
  baseUrl : settings.baseUrl = other.baseUrl
  /-- both credentials can be sent -/
  apiKey : Interchangeable (fun key => isHeaderValue ("Bearer " ++ key)) settings.apiKey
    other.apiKey

/-- The settings of the assistant are alike but for the key, which both have or neither. -/
theorem DifferInKeys.settings (h : DifferInKeys environment other) :
    SettingsAlike (.ofEnvironment environment) (.ofEnvironment other) := by
  have hsame {name : String} (hname : name ∉ keyNames) :
      Assistant.Settings.nonBlank environment name = Assistant.Settings.nonBlank other name := by
    rw [Assistant.Settings.nonBlank, Assistant.Settings.nonBlank, h.others name hname]
  refine ⟨?_, ?_, ?_⟩
  · exact congrArg (Option.getD · _) (hsame (by decide))
  · exact congrArg (Option.getD · _) (hsame (by decide))
  · change Interchangeable _ (Option.filter _ _) (Option.filter _ _)
    rcases h.assistant with hequal | ⟨key, second, hkey, hsecond, husable, hother⟩
    · exact .inl (by rw [hequal])
    · rw [isAssistantKey, Bool.and_eq_true] at husable hother
      rw [hkey, hsecond, Option.filter_some, Option.filter_some, if_pos husable.1,
        if_pos hother.1]
      exact .inr ⟨key, second, rfl, rfl, husable.2, hother.2⟩

/-- Two revisions send the same body to the same address, with one key or the other. -/
theorem SettingsAlike.revise {settings second : Assistant.Settings}
    (h : SettingsAlike settings second) (code intent : String) :
    SameButKeys (ofDialogue (Assistant.revise settings code intent))
      (ofDialogue (Assistant.revise second code intent)) := by
  rcases h.apiKey with hequal | ⟨key, last, hkey, hlast, husable, hother⟩
  · have hsettings : settings = second := by
      cases settings
      cases second
      rw [Assistant.Settings.mk.injEq]
      exact ⟨hequal, h.model, h.baseUrl⟩
    rw [hsettings]
    exact .refl _
  · have hprepared := preparePost_redacted settings.completionsUrl
      (Assistant.requestBody settings.model code intent) husable hother
    have hurl : settings.completionsUrl = second.completionsUrl := by
      rw [Assistant.Settings.completionsUrl, Assistant.Settings.completionsUrl, h.baseUrl]
    rcases cases_of_map_eq_map hprepared with ⟨failure, hfirst, hsecond⟩ |
      ⟨request, follow, hfirst, hsecond, hsame⟩
    · rw [hurl, h.model] at hsecond
      rw [Assistant.revise_of_unprepared hkey hfirst, Assistant.revise_of_unprepared hlast hsecond]
      exact .refl _
    · rw [hurl, h.model] at hsecond
      rw [Assistant.revise_of_prepared hkey hfirst, Assistant.revise_of_prepared hlast hsecond]
      refine .ask hsame fun reply => ?_
      rw [Request.url_eq_of_redacted hsame]
      exact .refl _

theorem SettingsAlike.apiKey_eq_none_iff {settings second : Assistant.Settings}
    (h : SettingsAlike settings second) : settings.apiKey = none ↔ second.apiKey = none := by
  rcases h.apiKey with hequal | ⟨key, last, hkey, hlast, -, -⟩
  · rw [hequal]
  · rw [hkey, hlast]
    exact iff_of_false (Option.some_ne_none key) (Option.some_ne_none last)

/-- An assistant is available with one key exactly if it is with the other, so both runs ask or
neither does. -/
theorem DifferInKeys.refactor (h : DifferInKeys environment other) (code : String)
    (intent : Intent) :
    SameButKeys (ofDialogue ((refactorerFor environment (some intent)).refactor code intent))
      (ofDialogue ((refactorerFor other (some intent)).refactor code intent)) := by
  by_cases huse : intent.useAssistant = true
  · rw [refactorerFor_of_use huse, refactorerFor_of_use huse]
    by_cases htext : intent.text = ""
    · rw [Refactorer.refactor_of_empty htext, Refactorer.refactor_of_empty htext]
      exact .refl _
    by_cases hkey : (Assistant.Settings.ofEnvironment environment).apiKey = none
    · have hother := h.settings.apiKey_eq_none_iff.1 hkey
      rw [Refactorer.refactor_of_unassisted htext (.inr hkey),
        Refactorer.refactor_of_unassisted htext (.inr hother)]
      exact .refl _
    · have hother := mt h.settings.apiKey_eq_none_iff.2 hkey
      rw [Refactorer.refactor_of_assisted htext huse hkey,
        Refactorer.refactor_of_assisted htext huse hother, ofDialogue_bind, ofDialogue_bind]
      exact (h.settings.revise _ _).bind fun _ => .refl _
  · have hnot : intent.useAssistant = false := by simpa using huse
    rw [refactorerFor_of_not_use hnot, refactorerFor_of_not_use hnot]
    exact .refl _

/-- A conversion looks at the environment only to refactor. -/
theorem DifferInKeys.conversionOf (h : DifferInKeys environment other) (refactoring : Refactoring)
    (workflow : Workflow) :
    SameButKeys (ofDialogue (conversionOf environment refactoring workflow))
      (ofDialogue (conversionOf other refactoring workflow)) := by
  rw [Cli.conversionOf, Cli.conversionOf]
  cases hintent : refactoring.intent with
  | none =>
    rw [intent?_of_none hintent]
    exact .refl _
  | some text =>
    rw [intent?_of_some hintent, Workflow.convert_some, Workflow.convert_some, ofDialogue_bind,
      ofDialogue_bind]
    exact (h.refactor _ _).bind fun _ => .refl _

/-! ### Whole runs -/

/-- A command runs the same but for the keys. -/
theorem DifferInKeys.run (h : DifferInKeys environment other) (command : Command) :
    SameButKeys (command.run environment) (command.run other) := by
  have hproceed {α : Type} {attempt second : Session (Except RunError α)}
      {next follow : α → Session Ending} (hattempt : SameButKeys attempt second)
      (hnext : ∀ a, SameButKeys (next a) (follow a)) :
      SameButKeys (proceed attempt next) (proceed second follow) := by
    refine hattempt.bind fun result => ?_
    cases result with
    | ok a => exact hnext a
    | error error => exact .refl _
  cases command with
  | convert source refactoring output =>
    refine hproceed (h.load source) fun workflow => ?_
    exact (h.conversionOf refactoring workflow).bind fun _ => .refl _
  | refactor codeFile refactoring =>
    refine hproceed (.refl _) fun code => ?_
    exact (h.refactor code _).bind fun _ => .refl _
  | list options json => exact hproceed (h.askStore _ _ _) fun _ => .refl _
  | validate source => exact hproceed (h.load source) fun _ => .refl _
  | schema => exact .refl _

/-- **Keys do not show.** Take two environments that differ in the keys at most, with keys that can
be used, and a file `.env` that looks up no key. Then the same command line, in the same world, ends
in the same way, leaves the same files, and has the same exchanges but for the keys in the
requests. -/
theorem program_same_but_for_keys (environment other : Environment)
    (h : DifferInKeys environment other) (words : List String) (world : World)
    (hunused : keysUsed environment world.folder = []) :
    let first := program environment words
    let second := program other words
    (first.play world).1 = (second.play world).1 ∧
      (first.play world).2.folder = (second.play world).2.folder ∧
      (first.exchanges world).map (Prod.map Request.redacted id) =
        (second.exchanges world).map (Prod.map Request.redacted id) := by
  intro first second
  rcases h.variablesIn hunused with ⟨unsettable, hfirst, hsecond⟩ |
    ⟨known, others, hfirst, hsecond, hdiffer⟩
  · -- the program is stopped by the same variable
    obtain ⟨hplay, hsent⟩ := play_program_of_crash hfirst words
    obtain ⟨hplayOther, hsentOther⟩ := play_program_of_crash hsecond words
    rw [hplay, hplayOther, hsent, hsentOther]
    exact ⟨rfl, rfl, rfl⟩
  cases hparse : Command.parse words with
  | error error =>
    -- no command is run, and no variable is looked at
    obtain ⟨hplay, hsent⟩ := play_program_of_error hfirst hparse
    obtain ⟨hplayOther, hsentOther⟩ := play_program_of_error hsecond hparse
    rw [hplay, hplayOther, hsent, hsentOther]
    exact ⟨rfl, rfl, rfl⟩
  | ok command =>
    rw [play_program hfirst hparse, play_program hsecond hparse, exchanges_program hfirst hparse,
      exchanges_program hsecond hparse]
    obtain ⟨hending, hsent, halike⟩ := (hdiffer.run command).play (World.Alike.refl world)
    exact ⟨hending, halike.folder, hsent⟩

/-- A store with a workflow, and at another host an assistant that refuses; where the assistant is,
a file `.env` above the folder of the program tells. -/
def neighbours : World where
  server :=
    { reaches := fun url => url.authority = some "store" ∨ url.authority = some "assistant.store"
      replies := [.answer 200 (Text.Utf8.encode "\x7b\"nodes\":[]\x7d".toList) true,
        .answer 500 [] true] }
  folder :=
    { files := [([".env"],
        Text.Utf8.encode "OPENAI_BASE_URL=http://assistant.$\x7bHOST\x7d".toList)]
      working := ["home"] }

/-- Variables with a key for the store and one for the assistant. -/
def keyed (storeKey assistantKey : String) : Environment :=
  .ofList [("N8N_URL", "https://store"), ("HOST", "store"), ("N8N_API_KEY", storeKey),
    ("OPENAI_API_KEY", assistantKey)]

/-- Both are asked, and none of the keys shows. -/
theorem neighbours_same_but_for_keys :
    let words := ["convert", "--workflow-id=7", "--intent=use const"]
    let first := program (keyed "a" "b") words
    let second := program (keyed "c" "d") words
    (first.play neighbours).1 = (second.play neighbours).1 ∧
      (first.exchanges neighbours).map (Prod.map Request.redacted id) =
        (second.exchanges neighbours).map (Prod.map Request.redacted id) ∧
      (first.exchanges neighbours).length = 2 := by
  intro words first second
  have hkeys : DifferInKeys (keyed "a" "b") (keyed "c" "d") := by
    refine ⟨fun name hname => ?_, .inr ⟨"a", "c", rfl, rfl, by decide, by decide⟩,
      .inr ⟨"b", "d", rfl, rfl, by decide, by decide⟩⟩
    rw [keyNames, List.mem_cons, List.mem_singleton, not_or] at hname
    simp [keyed, Environment.ofList, List.lookup_cons, beq_false_of_ne hname.1,
      beq_false_of_ne hname.2]
  have hunused : keysUsed (keyed "a" "b") neighbours.folder = [] := by decide +kernel
  obtain ⟨hending, -, hsent⟩ := program_same_but_for_keys _ _ hkeys words neighbours hunused
  exact ⟨hending, hsent, by decide +kernel⟩

/-- A store under an address that has the key in it. -/
def keyInAddress : World where
  server := .under "localhost" []
  folder := { files := [([".env"],
    Text.Utf8.encode "N8N_URL=http://localhost/$\x7bN8N_API_KEY\x7d".toList)] }

/-- The file `.env` can put a key into an address, and then it shows. -/
theorem keyInAddress_shows_key :
    let first := program (.ofList [("N8N_API_KEY", "a")]) ["list"]
    let second := program (.ofList [("N8N_API_KEY", "b")]) ["list"]
    (first.exchanges keyInAddress).map (fun exchange => exchange.1.url.text) =
        ["http://localhost/a/api/v1/workflows"] ∧
      (second.exchanges keyInAddress).map (fun exchange => exchange.1.url.text) =
        ["http://localhost/b/api/v1/workflows"] := by
  decide +kernel

end Cli

end FlowScript
