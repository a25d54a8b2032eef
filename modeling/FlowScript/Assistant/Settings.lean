import FlowScript.Http.Url
import FlowScript.Settings
import FlowScript.Text.CharClass

/-!
# Settings of the assistant

Where the assistant is asked, by which model, and with which credential. Without a
credential it is not asked at all.
-/

namespace FlowScript

namespace Assistant

/-- The settings of the assistant. -/
structure Settings where
  /-- the credential -/
  apiKey : Option String := none
  /-- the name of the model -/
  model : String := "gpt-3.5-turbo"
  /-- where the service is, without the path of its resources -/
  baseUrl : String := "https://api.openai.com/v1"
deriving DecidableEq

namespace Settings

/-- A variable, unless it is blank. -/
def nonBlank (environment : Environment) (name : String) : Option String :=
  (environment name).filter fun value => !Text.isAllBlank value

/-- Settings from variables. -/
def ofEnvironment (environment : Environment) : Settings :=
  { apiKey := nonBlank environment "OPENAI_API_KEY",
    model := (nonBlank environment "OPENAI_MODEL").getD ({ } : Settings).model,
    baseUrl := (nonBlank environment "OPENAI_BASE_URL").getD ({ } : Settings).baseUrl }

/-- Whether there is a credential. -/
def hasCredential (settings : Settings) : Bool := settings.apiKey.isSome

/-- The URL of the resource that is asked. -/
def completionsUrl (settings : Settings) : String :=
  Http.resourceUrl settings.baseUrl "/chat/completions"

/-- A description of the settings. -/
def description (settings : Settings) : String :=
  Description.record "AiConfig"
    [("api_key", Description.secret settings.apiKey), ("model", Text.quoted settings.model),
      ("base_url", Text.quoted settings.baseUrl)]

end Settings

end Assistant

end FlowScript
