import FlowScript.Http.Url
import FlowScript.Settings

/-!
# Settings and errors of the workflow store

Where the store is, the key it asks for, and how long to wait for it; and what can go wrong with
it, from the settings on.
-/

namespace FlowScript

namespace Store

/-! ### Errors

Four things can go wrong with the store, and each names what it is about. -/

/-- Why the store cannot be asked, or what went wrong when it was. -/
inductive Error where
  /-- the settings are wrong -/
  | configuration (text : String)
  /-- no reply came, or not all of it -/
  | connection (text : String)
  /-- the store answered with another status than success -/
  | server (status : Nat) (body : String)
  /-- the reply is not what it should be -/
  | serialization (text : String)
deriving DecidableEq

/-- The wording of an error. -/
def Error.message : Error → String
  | .configuration text => "configuration error: " ++ text
  | .connection text => "connection error: " ++ text
  | .server status body => "server error [" ++ toString status ++ "]: " ++ body
  | .serialization text => "serialization error: " ++ text

/-- The settings of the store. -/
structure Settings where
  /-- where the store is, without the path of its resources -/
  baseUrl : String := "http://localhost:5678"
  /-- the key it asks for -/
  apiKey : Option String := none
  /-- how many milliseconds to wait for a reply -/
  timeout : Option Nat := none
deriving DecidableEq

namespace Settings

/-- Whether a text begins like a web address. -/
def looksLikeUrl (text : String) : Bool :=
  "http://".toList.isPrefixOf text.toList || "https://".toList.isPrefixOf text.toList

/-- The time to wait, from its text. -/
def readTimeout : Option String → Except Error (Option Nat)
  | none => .ok none
  | some text =>
    match Natural.parse 18446744073709551615 text with
    | .ok milliseconds => .ok (some milliseconds)
    | .error fault =>
      .error (.configuration ("invalid FLOWGEN_REQUEST_TIMEOUT_MS: " ++ fault.message))

/-- Settings from variables. -/
def ofEnvironment (environment : Environment) : Except Error Settings := do
  let baseUrl := (environment "N8N_URL").getD ({ } : Settings).baseUrl
  if !looksLikeUrl baseUrl then
    .error (.configuration
      ("invalid N8N_URL: " ++ baseUrl ++ " (expected http:// or https://)"))
  else
    let timeout ← readTimeout (environment "FLOWGEN_REQUEST_TIMEOUT_MS")
    .ok { baseUrl, apiKey := (environment "N8N_API_KEY").filter (· ≠ ""), timeout }

/-- The root of the store's resources. -/
def apiUrl (settings : Settings) : String := Http.resourceUrl settings.baseUrl "/api/v1"

/-- A description of the settings. -/
def description (settings : Settings) : String :=
  Description.record "SdkConfig"
    [("base_url", Text.quoted settings.baseUrl), ("api_key", Description.secret settings.apiKey),
      ("request_timeout", Description.option (settings.timeout.map Description.duration))]

end Settings

end Store

end FlowScript
