import FlowScript.Conversion
import FlowScript.Proofs.Assistant.Request

/-!
# Refactoring fails open

Refactoring with the assistant gives the assistant's code when there is some, and the code that
the rules give in every other case. There is a single way to get the former: one request, and
a whole reply with a status of success and a text in its first choice (`Assistant.Delivers`).
Nothing else that the assistant or the network does shows in the result.
-/

namespace FlowScript

open Http Dialogue

/-! ### Replies -/

namespace Assistant

/-- A reply that delivers a content gives it, trimmed. -/
theorem getD_ofReply_of_delivers {url content : String} {reply : Reply} (fallback : String)
    (h : Delivers reply content) :
    (ofReply url reply).toOption.getD fallback = Text.trim content := by
  rw [ofReply_eq_ok_iff.2 ⟨content, h, rfl⟩]
  rfl

/-- Every other reply gives the fallback. So there are two outcomes and no third one. -/
theorem getD_ofReply_of_undelivered {url : String} {reply : Reply} (fallback : String)
    (h : ∀ content, ¬ Delivers reply content) :
    (ofReply url reply).toOption.getD fallback = fallback := by
  cases hreply : ofReply url reply with
  | error error => rfl
  | ok revised =>
    obtain ⟨content, hcontent, -⟩ := ofReply_eq_ok_iff.1 hreply
    exact absurd hcontent (h content)

end Assistant

/-! ### Refactoring -/

namespace Refactorer

/-- The refactorer whose second stage is the assistant. -/
def assisted (settings : Assistant.Settings) : Refactorer Dialogue where
  reviser? := some (Assistant.reviser settings)

variable {settings : Assistant.Settings} {code : String} {intent : Intent}

/-- An empty intent asks for nothing, and so does the code stay as it is. -/
theorem refactor_of_empty (h : intent.text = "") :
    (assisted settings).refactor code intent = .done code := by
  rw [refactor, if_pos h]
  rfl

/-- Whether the second stage runs. -/
theorem runs_iff :
    (intent.useAssistant && (Assistant.reviser settings).isAvailable) = true ↔
      intent.useAssistant = true ∧ settings.apiKey ≠ none := by
  rw [Bool.and_eq_true]
  exact and_congr_right fun _ => Option.isSome_iff_ne_none

/-- Without leave or without a credential the rules have the last word. -/
theorem refactor_of_unassisted (htext : intent.text ≠ "")
    (h : intent.useAssistant = false ∨ settings.apiKey = none) :
    (assisted settings).refactor code intent = .done (applyRules code intent.text) := by
  have hskip : ((assisted settings).reviser?.filter fun reviser =>
      intent.useAssistant && reviser.isAvailable) = none := by
    rw [assisted, Option.filter_some, if_neg]
    rw [runs_iff]
    rintro ⟨huse, hkey⟩
    rcases h with hnot | hnone
    · rw [hnot] at huse
      cases huse
    · exact hkey hnone
  rw [refactor, if_neg htext]
  dsimp only
  rw [hskip]
  rfl

/-- With both, the assistant is asked about the code after the rules, and that code is the
fallback. -/
theorem refactor_of_assisted (htext : intent.text ≠ "") (huse : intent.useAssistant = true)
    (hkey : settings.apiKey ≠ none) :
    (assisted settings).refactor code intent =
      Assistant.revise settings (applyRules code intent.text) intent.text >>= fun answer =>
        .done (answer.toOption.getD (applyRules code intent.text)) := by
  have htake : ((assisted settings).reviser?.filter fun reviser =>
      intent.useAssistant && reviser.isAvailable) = some (Assistant.reviser settings) := by
    rw [assisted, Option.filter_some, if_pos (runs_iff.2 ⟨huse, hkey⟩)]
  rw [refactor, if_neg htext]
  dsimp only
  rw [htake]
  -- both branches are over after the answer: its text is the result, or the fallback is
  refine congrArg (Assistant.revise settings (applyRules code intent.text) intent.text >>= ·) ?_
  funext answer
  cases answer <;> rfl

/-- No exchange brought a text. -/
def Undelivered (sent : List (Request × Reply)) : Prop :=
  ∀ exchange ∈ sent, ∀ content, ¬ Assistant.Delivers exchange.2 content

/-- What is seen of a refactoring by the assistant: the exchanges with the server, and the
result. -/
structure FailsOpen (settings : Assistant.Settings) (code intent : String) (server : Server)
    (sent : List (Request × Reply)) (result : String) : Prop where
  /-- there is one request, or none if it cannot be prepared -/
  requests : ∀ key, settings.apiKey = some key →
    sent.map Prod.fst = (preparePost settings.completionsUrl key
      (Assistant.requestBody settings.model (applyRules code intent) intent)).toOption.toList
  /-- there is no second request -/
  atMostOne : sent.length ≤ 1
  /-- the reply is the server's -/
  replies : ∀ exchange ∈ sent, exchange.2 = (server.answer exchange.1).1
  /-- what the assistant is told is the instruction and the code that the rules give -/
  messages : ∀ exchange ∈ sent, Assistant.heard exchange.1 =
    some [{ role := "system", content := some Assistant.instruction },
      { role := "user", content := some (Assistant.question (applyRules code intent) intent) }]
  /-- a text that was brought is the result -/
  taken : ∀ exchange ∈ sent, ∀ content, Assistant.Delivers exchange.2 content →
    result = Text.trim content
  /-- without one, the code that the rules give is -/
  kept : Undelivered sent → result = applyRules code intent

/-- **Failing open.** What is asked is the code after the rules, at most once; what comes of it is
the content of a reply that has one, or the code after the rules. -/
theorem failsOpen_of_assisted (server : Server) (htext : intent.text ≠ "")
    (huse : intent.useAssistant = true) (hkey : settings.apiKey ≠ none) :
    FailsOpen settings code intent.text server
      (((assisted settings).refactor code intent).transcript server)
      (((assisted settings).refactor code intent).play server).1 := by
  obtain ⟨key, hkey'⟩ := Option.ne_none_iff_exists'.1 hkey
  rw [refactor_of_assisted htext huse hkey, play_bind, transcript_bind, transcript_done,
    List.append_nil, play_done]
  have hkeys : ∀ other, settings.apiKey = some other → other = key := by
    intro other hother
    rw [hkey'] at hother
    exact (Option.some.inj hother).symm
  rcases hprepared : preparePost settings.completionsUrl key
    (Assistant.requestBody settings.model (applyRules code intent.text) intent.text) with
    failure | request
  · -- nothing is sent, and nothing comes back
    rw [Assistant.revise_of_unprepared hkey' hprepared, transcript_done, play_done]
    constructor
    case requests =>
      intro other hother
      rw [hkeys other hother, hprepared]
      rfl
    case atMostOne => exact Nat.zero_le 1
    case kept => exact fun _ => rfl
    all_goals exact fun exchange h => absurd h List.not_mem_nil
  · -- one exchange, and its reply decides
    rw [Assistant.revise_of_prepared hkey' hprepared]
    have hsingle : ∀ {P : Request × Reply → Prop}, P (request, (server.answer request).1) →
        ∀ exchange ∈ [(request, (server.answer request).1)], P exchange :=
      fun h => List.forall_mem_singleton.2 h
    constructor
    case requests =>
      intro other hother
      rw [hkeys other hother, hprepared]
      rfl
    case atMostOne => exact Nat.le_refl 1
    case replies => exact hsingle rfl
    case messages => exact hsingle (Assistant.heard_of_preparePost _ _ _ hprepared)
    case taken =>
      exact hsingle fun content hcontent => Assistant.getD_ofReply_of_delivers _ hcontent
    case kept =>
      intro hundelivered
      exact Assistant.getD_ofReply_of_undelivered _ (hundelivered _ List.mem_cons_self)

theorem seen_of_empty (server : Server) (htext : intent.text = "") :
    ((assisted settings).refactor code intent).transcript server = [] ∧
      (((assisted settings).refactor code intent).play server).1 = code := by
  rw [refactor_of_empty htext]
  exact ⟨rfl, rfl⟩

/-- No request is seen by the server in this case, and what is given is what the rules give. -/
theorem seen_of_unassisted (server : Server) (htext : intent.text ≠ "")
    (h : intent.useAssistant = false ∨ settings.apiKey = none) :
    ((assisted settings).refactor code intent).transcript server = [] ∧
      (((assisted settings).refactor code intent).play server).1 =
        applyRules code intent.text := by
  rw [refactor_of_unassisted htext h]
  exact ⟨rfl, rfl⟩

/-- An assistant that brings no text might as well not have been asked. -/
theorem play_eq_of_undelivered (server : Server)
    (h : Undelivered (((assisted settings).refactor code intent).transcript server)) :
    (((assisted settings).refactor code intent).play server).1 =
      (((assisted settings).refactor code
        { intent with useAssistant := false }).play server).1 := by
  by_cases htext : intent.text = ""
  · have hwithout := @seen_of_empty settings code { intent with useAssistant := false } server htext
    rw [(seen_of_empty server htext).2, hwithout.2]
  · have hwithout := @seen_of_unassisted settings code { intent with useAssistant := false } server
      htext (.inl rfl)
    rw [hwithout.2]
    by_cases hskip : intent.useAssistant = false ∨ settings.apiKey = none
    · exact (seen_of_unassisted server htext hskip).2
    · rw [not_or, Bool.not_eq_false] at hskip
      exact (failsOpen_of_assisted server htext hskip.1 hskip.2).kept h

/-- **Failing open**: for all settings, servers, codes and intents, with the assistant or without.
An empty intent gives the code as it is, and nothing is sent. Without permission or without a
credential the result is what the rules give, and nothing is sent. Otherwise the assistant is
asked at most once, about the code that the rules give; the result is the text that it brings
or else again what the rules give. Unless a text was brought, asking the assistant makes no
difference. -/
theorem assisted_refactor_fails_open (settings : Assistant.Settings) (code : String)
    (intent : Intent) (server : Server) :
    let dialogue := (assisted settings).refactor code intent
    let sent := dialogue.transcript server
    let result := (dialogue.play server).1
    (dialogue.play server).2.received =
      server.received ++ (sent.map Prod.fst).filter server.isReached ∧
    (intent.text = "" → sent = [] ∧ result = code) ∧
    (intent.text ≠ "" → intent.useAssistant = false ∨ settings.apiKey = none →
      sent = [] ∧ result = applyRules code intent.text) ∧
    (intent.text ≠ "" → intent.useAssistant = true → settings.apiKey ≠ none →
      FailsOpen settings code intent.text server sent result) ∧
    (Undelivered sent →
      result = (((assisted settings).refactor code
        { intent with useAssistant := false }).play server).1) := by
  intro dialogue sent result
  exact ⟨received_play dialogue server, seen_of_empty server, seen_of_unassisted server,
    failsOpen_of_assisted server, play_eq_of_undelivered server⟩

/-- The assistant on the same host. -/
def nearby : Assistant.Settings where
  apiKey := some "key"
  baseUrl := "https://localhost"

/-- A response with one choice. -/
def offer : List UInt8 :=
  Text.Utf8.encode (Json.Value.text (.obj [("choices", .arr [.obj [("message", .obj
    [("role", .str "assistant"), ("content", .str "const y;\n")])]])])).toList

/-- A server that gives the response with a status. -/
def offering (status : Nat) : Server := .under "localhost" [.answer status offer true]

/-- The same response is taken or counts for nothing. -/
theorem offering_fails_open :
    (((assisted nearby).refactor "let x;" { text := "use const" }).play (offering 200)).1 =
        "const y;" ∧
      (((assisted nearby).refactor "let x;" { text := "use const" }).play (offering 503)).1 =
        "const x;" := by
  have hruled : applyRules "let x;" "use const" = "const x;" := by decide +kernel
  have hoffer : (Assistant.Response.decoder.parse (Text.Utf8.decode offer)).toOption.map
      Assistant.Response.choices = some [⟨"assistant", some "const y;\n"⟩] := by decide +kernel
  have hreached : (preparePost nearby.completionsUrl "key" (Assistant.requestBody nearby.model
      (applyRules "let x;" "use const") "use const")).toOption.any (offering 200).isReached =
        true := by decide +kernel
  have hopen := fun status => (assisted_refactor_fails_open nearby "let x;"
    { text := "use const" } (offering status)).2.2.2.1 (by decide) rfl nofun
  -- whatever the status is, the response comes back
  have hsent : ∀ status, ∃ request, (((assisted nearby).refactor "let x;"
      { text := "use const" }).transcript (offering status)) =
        [(request, .answer status offer true)] := by
    intro status
    obtain ⟨request, hrequest, hreached⟩ := (Option.any_eq_true ..).1 hreached
    have hone := (hopen status).requests "key" rfl
    rw [hrequest] at hone
    obtain ⟨exchange, hsent, rfl⟩ := List.map_eq_singleton_iff.1 hone
    have hreply := (hopen status).replies exchange (hsent ▸ List.mem_singleton_self _)
    have hreached : (offering status).isReached exchange.1 = true := hreached
    rw [Server.answer, if_pos hreached] at hreply
    refine ⟨exchange.1, hsent.trans ?_⟩
    exact congrArg (fun reply => [(exchange.1, reply)]) hreply
  constructor
  · obtain ⟨request, hsent⟩ := hsent 200
    have hdelivers : Assistant.Delivers (.answer 200 offer true) "const y;\n" := by
      rcases hresponse : Assistant.Response.decoder.parse (Text.Utf8.decode offer) with
        fault | response
      · rw [hresponse] at hoffer
        cases hoffer
      · rw [hresponse] at hoffer
        exact .intro (by decide) hresponse (Option.some.inj hoffer) rfl
    rw [(hopen 200).taken _ (hsent ▸ List.mem_singleton_self _) _ hdelivers]
    decide +kernel
  · obtain ⟨request, hsent⟩ := hsent 503
    have hundelivered : Undelivered [(request, Reply.answer 503 offer true)] := by
      refine List.forall_mem_singleton.2 fun content => ?_
      rintro ⟨⟨-, hstatus⟩, -, -, -⟩
      exact absurd hstatus (by decide)
    rw [(hopen 503).kept (hsent ▸ hundelivered), hruled]

end Refactorer

end FlowScript
