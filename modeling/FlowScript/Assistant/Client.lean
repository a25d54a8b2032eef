import FlowScript.Assistant.Chat
import FlowScript.Assistant.Settings
import FlowScript.Http.Dialogue

/-!
# Asking the assistant

One request, one reply, no second try. Whatever comes back that is not a text to take is
an error with a cause; what to do about it is for the caller to decide.
-/

namespace FlowScript

namespace Assistant

open Http

/-- Why the assistant did not revise the code. -/
inductive Error where
  /-- it cannot be asked -/
  | configuration (text : String)
  /-- it answered with another status than success -/
  | refused (status : Nat) (body : String)
  /-- it did not answer -/
  | transport (text : String)
  /-- it answered with something else than expected -/
  | invalidResponse (text : String)
deriving DecidableEq

/-- The wording of an error. -/
def Error.message : Error → String
  | .configuration text => "configuration error: " ++ text
  | .refused status body => "upstream error [" ++ toString status ++ "]: " ++ body
  | .transport text => "transport error: " ++ text
  | .invalidResponse text => "invalid response: " ++ text

/-- What a reply of the assistant to a request to a URL means. The body of a refusal is
shown as well as it can be read; the body of a success must be there in full. -/
def ofReply (url : String) : Reply → Except Error String
  | .none => .error (.transport (Failure.noReply url).message)
  | .answer status body complete =>
    if !isSuccess status then
      let shown :=
        if complete then Text.Utf8.tolerant body
        else "<unreadable response body: " ++ Failure.badBody.message ++ ">"
      .error (.refused status shown)
    else if !complete then .error (.invalidResponse Failure.badBody.message)
    else
      match Response.decoder.parse (Text.Utf8.decode body) with
      | .error _ => .error (.invalidResponse Failure.badBody.message)
      | .ok response =>
        response.firstContent.mapError fun emptiness => .invalidResponse emptiness.message

/-- Asks the assistant to revise code. -/
def revise (settings : Settings) (code intent : String) : Dialogue (Except Error String) :=
  match settings.apiKey with
  | none => .done (.error (.configuration "OPENAI_API_KEY not set"))
  | some key =>
    match preparePost settings.completionsUrl key (requestBody settings.model code intent) with
    | .error failure => .done (.error (.transport failure.message))
    | .ok request => .ask request fun reply => .done (ofReply request.url.text reply)

end Assistant

end FlowScript
