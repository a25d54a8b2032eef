import FlowScript.Proofs.Assistant.Replies
import FlowScript.Proofs.Json.Agreement
import FlowScript.Proofs.Json.Record
import FlowScript.Proofs.Json.Text.Visible

/-!
# What the assistant is told

A request to the assistant is a text, and the text is that of a value: read back, it gives the
value (`parse_requestBody`). So whoever reads the request finds the instruction and the question
as they were meant (`heard_of_preparePost`), whatever stands in the code or in the intent. Nor can
code or intent keep a request from being sent (`length_transcript_revise`).
-/

namespace FlowScript

open Http

namespace Http

/-- What a prepared request holds, and what it took to prepare it. -/
theorem preparePost_eq_ok {url bearer body : String} {request : Request}
    (h : preparePost url bearer body = .ok request) :
    ∃ target, prepareUrl url = .ok target ∧ isHeaderValue ("Bearer " ++ bearer) = true ∧
      canAsk target = true ∧
      request = { method := .post, url := target, authorization := some ("Bearer " ++ bearer),
                  contentType := some "application/json", body } := by
  obtain ⟨target, htarget, h⟩ := Json.bind_eq_ok h
  dsimp only at h
  split at h
  · next hvalue =>
    unfold checkedRequest at h
    split at h
    · next hask => exact ⟨target, htarget, hvalue, hask, (Except.ok.inj h).symm⟩
    · cases h
  · cases h

/-- Whether a request can be prepared does not depend on its body. -/
theorem isOk_preparePost (url bearer body other : String) :
    (preparePost url bearer body).isOk = (preparePost url bearer other).isOk := by
  unfold preparePost
  cases prepareUrl url with
  | error failure => rfl
  | ok target =>
    rw [Json.ok_bind, Json.ok_bind]
    dsimp only
    split
    · unfold checkedRequest
      dsimp only
      split <;> rfl
    · rfl

end Http

namespace Assistant

open Json Decoder

section Body

variable (model code intent : String)

/-! ### The body is read back -/

/-- The body is written from a value whose keys are distinct by its form, and whose only number is
zero. So nothing of the code and the intent keeps its text from reading back. -/
theorem plain_requestValue : (requestValue model code intent).Plain := by
  refine Value.plain_of (Value.distinctKeys_iff.2 rfl) fun x hx => ?_
  simp [requestValue, Message.toValue, Value.parts, Value.membersParts, Value.itemsParts,
    Value.ofUInt64] at hx

/-- **The body reads back** as the value that it was written from. -/
theorem parse_requestBody :
    any.parse (Source.ofString (requestBody model code intent)) =
      .ok (requestValue model code intent) := by
  rw [requestBody, Value.ofString_text]
  have hdepth : (requestValue model code intent).depth ≤ depthLimit := by
    change 3 ≤ 127
    decide
  exact (any_agrees.parse_eq_ok_iff (plain_requestValue model code intent) hdepth _).2 rfl

/-! ### Messages -/

/-- The messages that are found in the body of a request. -/
def heard (request : Request) : Option (List Message) := do
  let body ← (any.parse (Source.ofString request.body)).toOption
  let messages ← body.get? "messages"
  ((list Message.decoder).ofValue messages).toOption

/-- What an assistant hears in a request: the instruction, and one message with the intent and the
code as they are. -/
theorem heard_of_preparePost {url bearer : String} {request : Request}
    (h : preparePost url bearer (requestBody model code intent) = .ok request) :
    heard request =
      some [{ role := "system", content := some instruction },
        { role := "user", content := some (question code intent) }] := by
  obtain ⟨target, -, -, -, rfl⟩ := preparePost_eq_ok h
  rw [heard, parse_requestBody]
  rfl

end Body

/-! ### The exchange -/

/-- Whether the settings allow for a request. -/
def Settings.canPost (settings : Settings) : Bool :=
  settings.apiKey.any fun key => (preparePost settings.completionsUrl key "").isOk

/-- Neither code nor intent decides whether a request is sent. -/
theorem length_transcript_revise (settings : Settings) (code intent : String)
    (server : Dialogue.Server) :
    ((revise settings code intent).transcript server).length =
      if settings.canPost then 1 else 0 := by
  rw [← List.length_map Prod.fst, (readsOnce_revise settings code intent).requests,
    Settings.request?, Settings.canPost]
  cases settings.apiKey with
  | none => rfl
  | some key =>
    rw [Option.bind_some, Option.any_some,
      isOk_preparePost _ _ "" (requestBody settings.model code intent)]
    cases preparePost settings.completionsUrl key (requestBody settings.model code intent) <;> rfl

/-- **What is posted reads back.** For every model, code and intent, one request is posted exactly
if the settings allow for it. Its body is one line without controls, and read as JSON it is the
object of the model, of the instruction and the question, in this order, and of a temperature of
zero. The question has the intent and the code in it, character for character. -/
theorem posted_body_reads_back (settings : Settings) (code intent : String)
    (server : Dialogue.Server) :
    let posted := ((revise settings code intent).transcript server).map Prod.fst
    posted.length = (if settings.canPost then 1 else 0) ∧
    ∀ request ∈ posted,
      request.method = .post ∧
      request.contentType = some "application/json" ∧
      Text.linesOf request.body = [request.body] ∧
      (∀ c ∈ request.body.toList, 32 ≤ c.toNat) ∧
      any.parse (Source.ofString request.body) = .ok (.obj
        [("model", .str settings.model),
          ("messages", .arr
            [.obj [("role", .str "system"), ("content", .str instruction)],
              .obj [("role", .str "user"),
                ("content", .str ("Refactor according to: " ++ intent ++ "\n\n" ++ code))]]),
          ("temperature", .ofUInt64 0)]) := by
  intro posted
  refine ⟨(List.length_map ..).trans (length_transcript_revise settings code intent server), ?_⟩
  intro request hrequest
  rw [show posted = _ from (readsOnce_revise settings code intent).requests server,
    Option.mem_toList, Settings.request?, Option.bind_eq_some_iff] at hrequest
  obtain ⟨key, -, hprepared⟩ := hrequest
  obtain ⟨target, -, -, -, rfl⟩ := preparePost_eq_ok (toOption_eq_some_iff.1 hprepared)
  refine ⟨rfl, rfl, Value.linesOf_text _, ?_, parse_requestBody _ _ _⟩
  dsimp only
  rw [requestBody, Value.text, String.toList_ofList]
  exact Value.visible_chars _

/-- An assistant on the same host. -/
def beside : Settings where
  apiKey := some "key"
  model := "a \"model\""
  baseUrl := "http://localhost/v1/"

/-- Code with all that a string has to escape, and a character beyond sixteen bits. -/
def escaping : String := "let s = \"\\\";\t// 😀\n"

theorem beside_told_escaping :
    ∃ request, ((revise beside escaping "quote \"s\"\u0000").transcript
          (.under "localhost" [])).map Prod.fst = [request] ∧
      any.parse (Source.ofString request.body) = .ok (.obj
        [("model", .str "a \"model\""),
          ("messages", .arr
            [.obj [("role", .str "system"), ("content", .str instruction)],
              .obj [("role", .str "user"), ("content", .str
                ("Refactor according to: " ++ "quote \"s\"\u0000" ++ "\n\n" ++ escaping))]]),
          ("temperature", .ofUInt64 0)]) := by
  obtain ⟨hone, hbody⟩ := posted_body_reads_back beside escaping "quote \"s\"\u0000"
    (.under "localhost" [])
  rw [if_pos (by decide +kernel)] at hone
  obtain ⟨request, hrequest⟩ := List.length_eq_one_iff.1 hone
  exact ⟨request, hrequest, (hbody request (hrequest ▸ List.mem_singleton_self _)).2.2.2.2⟩

end Assistant

end FlowScript
