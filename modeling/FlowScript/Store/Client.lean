import FlowScript.Http.Dialogue
import FlowScript.Store.Page
import FlowScript.Store.Settings
import FlowScript.Workflow.Decoding

/-!
# Asking the store

The store is only read from. Every question is one request and one reply; what comes back
is the document that was asked for, or an error with a cause.
-/

namespace FlowScript

namespace Store

open Http Json

/-- A client of the store: settings that can be used. -/
structure Client where
  /-- the settings -/
  settings : Settings
deriving DecidableEq

/-- A client with given settings, if the key can be sent. -/
def Client.ofSettings (settings : Settings) : Except Error Client :=
  if settings.apiKey.all isHeaderValue then .ok ⟨settings⟩
  else .error (.configuration "invalid API key: failed to parse header value")

/-- A client with settings from variables. -/
def Client.ofEnvironment (environment : Environment) : Except Error Client := do
  Client.ofSettings (← Settings.ofEnvironment environment)

/-- What a reply of the store to a request to a URL means. The body counts first: without
all of it, no status does. -/
def ofReply {α : Type} (decoder : Decoder α) (url : String) : Reply → Except Error α
  | .none => .error (.connection (Failure.noReply url).message)
  | .answer _ _ false => .error (.connection Failure.badBody.message)
  | .answer status body true =>
    let text := Text.Utf8.tolerant body
    if !isSuccess status then .error (.server status text)
    else
      let source := Source.ofString text
      (decoder.parse source).mapError fun fault => .serialization (fault.message source)

/-- Asks for a document at a path below the root. -/
def Client.get {α : Type} (client : Client) (decoder : Decoder α) (path : String)
    (pairs : List (String × String)) : Dialogue (Except Error α) :=
  let settings := client.settings
  match prepareGet (settings.apiUrl ++ path) pairs settings.apiKey settings.timeout with
  | .error failure => .done (.error (.connection failure.message))
  | .ok request => .ask request fun reply => .done (ofReply decoder request.url.text reply)

/-- Asks for a workflow. -/
def Client.fetch (client : Client) (id : String) : Dialogue (Except Error Workflow) :=
  client.get Workflow.decoder ("/workflows/" ++ id) []

/-- Asks for a page of the list of workflows. -/
def Client.list (client : Client) (options : ListOptions) : Dialogue (Except Error Page) :=
  client.get Page.decoder "/workflows" options.pairs

end Store

end FlowScript
