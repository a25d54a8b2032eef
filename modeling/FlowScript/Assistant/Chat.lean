import FlowScript.Json.Decoder
import FlowScript.Json.Printer
import FlowScript.Text.CharClass

/-!
# The assistant's messages

What the assistant is sent and what it sends back. A request holds an instruction and the
code to be revised; of a response only the text of the first choice counts.
-/

namespace FlowScript

namespace Assistant

open Json

/-- A message of a conversation. -/
structure Message where
  /-- who speaks -/
  role : String
  /-- what is said -/
  content : Option String := none
deriving DecidableEq

/-- Writes a message. -/
def Message.toValue (message : Message) : Value :=
  .obj [("role", .str message.role), ("content", (message.content.map Value.str).getD .null)]

/-- Reads a message. -/
def Message.decoder : Decoder Message :=
  .record "ChatMessage"
    [.mandatory "role" .text fun value message => { message with role := value },
      .withDefault "content" (.optional .text) fun value message =>
        { message with content := value }]
    { role := "" }

/-! ### Requests -/

/-- What the assistant is told in every request. -/
def instruction : String :=
  "You are a Node.js expert who refactors code generated from n8n workflows. " ++
    "Respond with the updated code only."

/-- What the assistant is asked. -/
def question (code intent : String) : String :=
  "Refactor according to: " ++ intent ++ "\n\n" ++ code

/-- A request to revise code. -/
def requestValue (model code intent : String) : Value :=
  .obj [("model", .str model),
    ("messages", .arr
      [Message.toValue { role := "system", content := some instruction },
        Message.toValue { role := "user", content := some (question code intent) }]),
    ("temperature", .ofUInt64 0)]

/-- The body of a request to revise code. -/
def requestBody (model code intent : String) : String := (requestValue model code intent).text

/-! ### Responses -/

/-- A response: the messages that the assistant offers, best first. -/
structure Response where
  /-- the messages of the choices -/
  choices : List Message := []

/-- Reads a choice, which is a message with other things that do not count. -/
def choiceDecoder : Decoder Message :=
  .record "ChatChoice" [.mandatory "message" Message.decoder fun value _ => value] { role := "" }

/-- Reads a response. -/
def Response.decoder : Decoder Response :=
  .record "ChatCompletionResponse"
    [.withDefault "choices" (.list choiceDecoder)
      fun value response => { response with choices := value }]
    { }

/-- Why a response has no text to take. -/
inductive Emptiness where
  /-- there are no choices -/
  | noChoices
  /-- the first choice has no text -/
  | noContent
deriving DecidableEq

/-- The wording. -/
def Emptiness.message : Emptiness → String
  | .noChoices => "response has no choices"
  | .noContent => "first choice has no message content"

/-- The text of the first choice, without blanks around it. -/
def Response.firstContent (response : Response) : Except Emptiness String :=
  match response.choices with
  | [] => .error .noChoices
  | first :: _ =>
    match first.content with
    | some content => .ok (Text.trim content)
    | none => .error .noContent

end Assistant

end FlowScript
