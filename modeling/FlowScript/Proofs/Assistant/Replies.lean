import FlowScript.Assistant.Client
import FlowScript.Proofs.Http.Replies
import FlowScript.Proofs.Json.Record

/-!
# What is made of the assistant's replies

There is a single way to get a text from the assistant: a whole reply with a status of success and
a text in its first choice (`Delivers`). Every other reply is an error, and its class tells what
came (`Reads`). Here the status counts first, so a refusal is one even if its body was cut off.
-/

namespace FlowScript

open Http

namespace Assistant

variable {status : Nat} {body : List UInt8}

/-! ### Texts -/

/-- A reply brings a text: it arrived whole, its status is one of success, and its body is read as
a response whose first choice has the text as content. -/
inductive Delivers : Reply → String → Prop where
  | intro {status : Nat} {body : List UInt8} {response : Response} {first : Message}
      {others : List Message} {content : String} (hstatus : 200 ≤ status ∧ status ≤ 299)
      (hresponse : Response.decoder.parse (Text.Utf8.decode body) = .ok response)
      (hchoices : response.choices = first :: others) (hcontent : first.content = some content) :
      Delivers (.answer status body true) content

/-- The revised code is the content of the first choice, trimmed. There may be further choices;
there may not be none, and the first one must have a content. -/
theorem firstContent_eq_ok_iff {response : Response} {revised : String} :
    response.firstContent = .ok revised ↔ ∃ first others content,
      response.choices = first :: others ∧ first.content = some content ∧
        Text.trim content = revised := by
  unfold Response.firstContent
  cases hchoices : response.choices with
  | nil => simp
  | cons first others =>
    dsimp only
    cases hcontent : first.content with
    | none => simp [hcontent]
    | some content => simp [hcontent]

/-- What is taken from a reply is the text that it brings, without blanks around it. -/
theorem ofReply_eq_ok_iff {url : String} {reply : Reply} {revised : String} :
    ofReply url reply = .ok revised ↔
      ∃ content, Delivers reply content ∧ Text.trim content = revised := by
  constructor
  · intro h
    cases reply with
    | none => cases h
    | answer status body complete =>
      -- of the ways through the reader, only the last gives a text
      rw [ofReply] at h
      split at h
      · cases h
      · next hsuccess =>
        split at h
        · cases h
        · next hcomplete =>
          split at h
          · cases h
          · next response hresponse =>
            rw [Json.mapError_eq_ok_iff, firstContent_eq_ok_iff] at h
            obtain ⟨first, others, content, hchoices, hcontent, htrim⟩ := h
            rw [Bool.not_eq_true', Bool.not_eq_false] at hsuccess hcomplete
            subst hcomplete
            exact ⟨content, .intro (isSuccess_iff.1 hsuccess) hresponse hchoices hcontent, htrim⟩
  · rintro ⟨content, ⟨hstatus, hresponse, hchoices, hcontent⟩, htrim⟩
    rw [ofReply, isSuccess_iff.2 hstatus, hresponse]
    exact Json.mapError_eq_ok_iff.2
      (firstContent_eq_ok_iff.2 ⟨_, _, content, hchoices, hcontent, htrim⟩)

/-! ### Classes -/

/-- A body in which there is no text to take: it was cut off, is no response, or is a response
without choices or without a text in the first. -/
inductive Lacks (body : List UInt8) : Bool → Prop where
  | cut : Lacks body false
  | garbled {complete : Bool}
      (h : ∀ response, Response.decoder.parse (Text.Utf8.decode body) ≠ .ok response) :
      Lacks body complete
  | noChoices {complete : Bool} {response : Response}
      (h : Response.decoder.parse (Text.Utf8.decode body) = .ok response)
      (hchoices : response.choices = []) : Lacks body complete
  | noContent {complete : Bool} {response : Response} {first : Message} {others : List Message}
      (h : Response.decoder.parse (Text.Utf8.decode body) = .ok response)
      (hchoices : response.choices = first :: others) (hcontent : first.content = none) :
      Lacks body complete

/-- What is shown of the body of a refusal. -/
def shown (body : List UInt8) (complete : Bool) : String :=
  if complete then Text.Utf8.tolerant body
  else "<unreadable response body: error decoding response body>"

/-- What is made of a reply. -/
structure Reads (reply : Reply) (result : Except Error String) : Prop where
  /-- the connection is at fault exactly if nothing came -/
  transport : (∃ text, result = .error (.transport text)) ↔ reply = .none
  /-- there is a refusal exactly if the status is none of success, whether all came or not -/
  refused (status : Nat) (text : String) : result = .error (.refused status text) ↔
    ∃ body complete, reply = .answer status body complete ∧ ¬ (200 ≤ status ∧ status ≤ 299) ∧
      shown body complete = text
  /-- the response is at fault exactly if there is no text in what came with success -/
  invalidResponse : (∃ text, result = .error (.invalidResponse text)) ↔
    ∃ status body complete, reply = .answer status body complete ∧
      (200 ≤ status ∧ status ≤ 299) ∧ Lacks body complete
  /-- a text is taken exactly if the reply brings it, without the blanks around it -/
  taken (revised : String) : result = .ok revised ↔
    ∃ content, Delivers reply content ∧ Text.trim content = revised
  /-- the settings are never at fault -/
  configuration (text : String) : result ≠ .error (.configuration text)

/-- A reply that brings a text does not lack one. -/
theorem Delivers.not_lacks {content : String} {complete : Bool}
    (h : Delivers (.answer status body complete) content) : ¬ Lacks body complete := by
  obtain ⟨-, hresponse, hchoices, hcontent⟩ := h
  intro hlacks
  cases hlacks with
  | garbled h => exact h _ hresponse
  | noChoices h hnone =>
    obtain rfl := Except.ok.inj (hresponse.symm.trans h)
    rw [hnone] at hchoices
    cases hchoices
  | noContent h hfirst hnone =>
    obtain rfl := Except.ok.inj (hresponse.symm.trans h)
    obtain ⟨rfl, -⟩ := List.cons.inj (hchoices.symm.trans hfirst)
    rw [hnone] at hcontent
    cases hcontent

theorem ofReply_of_refusal {url : String} {complete : Bool} (h : isSuccess status = false) :
    ofReply url (.answer status body complete) =
      .error (.refused status (shown body complete)) := by
  have hunreadable : "<unreadable response body: " ++ Failure.badBody.message ++ ">" =
      "<unreadable response body: error decoding response body>" := by decide +kernel
  rw [ofReply, h, shown, ← hunreadable]
  rfl

/-- With success, there is a text or the response is at fault. -/
theorem ofReply_of_success {url : String} {complete : Bool} (h : isSuccess status = true) :
    (Lacks body complete ∧
      ∃ text, ofReply url (.answer status body complete) = .error (.invalidResponse text)) ∨
    ∃ content, Delivers (.answer status body complete) content ∧
      ofReply url (.answer status body complete) = .ok (Text.trim content) := by
  rw [ofReply, h]
  cases complete with
  | false => exact .inl ⟨.cut, _, rfl⟩
  | true =>
    cases hparse : Response.decoder.parse (Text.Utf8.decode body) with
    | error fault =>
      refine .inl ⟨.garbled fun response => ?_, _, rfl⟩
      rw [hparse]
      exact Json.error_ne_ok
    | ok response =>
      cases hchoices : response.choices with
      | nil =>
        refine .inl ⟨.noChoices hparse hchoices, Emptiness.noChoices.message, ?_⟩
        simp [Response.firstContent, hchoices, Except.mapError]
      | cons first others =>
        cases hcontent : first.content with
        | none =>
          refine .inl ⟨.noContent hparse hchoices hcontent, Emptiness.noContent.message, ?_⟩
          simp [Response.firstContent, hchoices, hcontent, Except.mapError]
        | some content =>
          refine .inr ⟨content, .intro (isSuccess_iff.1 h) hparse hchoices hcontent, ?_⟩
          simp [Response.firstContent, hchoices, hcontent, Except.mapError]

/-- A refusal is told by its status alone, so it does not matter whether its body arrived as a
whole. -/
theorem reads_refusal {url : String} {complete : Bool} (h : isSuccess status = false) :
    Reads (.answer status body complete) (ofReply url (.answer status body complete)) := by
  have hstatus := mt isSuccess_iff.2 (Bool.eq_false_iff.1 h)
  have hresult := @ofReply_of_refusal status body url complete h
  refine ⟨by simp [hresult], fun other text => ?_, ?_, fun _ => ofReply_eq_ok_iff,
    by simp [hresult]⟩
  · rw [hresult]
    constructor
    · intro hsame
      cases hsame
      exact ⟨body, complete, rfl, hstatus, rfl⟩
    · rintro ⟨_, _, hreply, -, rfl⟩
      cases hreply
      rfl
  · refine iff_of_false (by simp [hresult]) ?_
    rintro ⟨_, _, _, hreply, hsuccess, -⟩
    cases hreply
    exact hstatus hsuccess

/-- A success is read as a completion, for which its body must be there as a whole. -/
theorem reads_success {url : String} {complete : Bool} (h : isSuccess status = true) :
    Reads (.answer status body complete) (ofReply url (.answer status body complete)) := by
  have hstatus := isSuccess_iff.1 h
  have hnoRefusal (other : Nat) (text : String) : ¬ ∃ shownBody whole,
      Reply.answer status body complete = .answer other shownBody whole ∧
        ¬ (200 ≤ other ∧ other ≤ 299) ∧ shown shownBody whole = text := by
    rintro ⟨_, _, hreply, hother, -⟩
    cases hreply
    exact hother hstatus
  rcases @ofReply_of_success status body url complete h with
    ⟨hlacks, text, hresult⟩ | ⟨content, hdelivers, hresult⟩
  · exact ⟨by simp [hresult], fun other text => iff_of_false (by simp [hresult])
        (hnoRefusal other text),
      iff_of_true ⟨text, hresult⟩ ⟨status, body, complete, rfl, hstatus, hlacks⟩,
      fun _ => ofReply_eq_ok_iff, by simp [hresult]⟩
  · refine ⟨by simp [hresult], fun other text => iff_of_false (by simp [hresult])
      (hnoRefusal other text), iff_of_false (by simp [hresult]) ?_,
      fun _ => ofReply_eq_ok_iff, by simp [hresult]⟩
    rintro ⟨_, _, _, hreply, -, hlacks⟩
    cases hreply
    exact hdelivers.not_lacks hlacks

/-- **Every reply is read** in one of the ways that the classification names: there was none, it was
a refusal, or it was a success. -/
theorem reads_ofReply (url : String) (reply : Reply) : Reads reply (ofReply url reply) := by
  cases reply with
  | none => exact ⟨by simp [ofReply], by simp [ofReply], by simp [ofReply],
      fun _ => ofReply_eq_ok_iff, by simp [ofReply]⟩
  | answer status body complete =>
    cases h : isSuccess status with
    | false => exact reads_refusal h
    | true => exact reads_success h

/-! ### The call -/

variable {settings : Settings} {code intent key : String}

/-- A request that cannot be prepared is not sent, and the failure is told at once. -/
theorem revise_of_unprepared {failure : Failure} (hkey : settings.apiKey = some key)
    (h : preparePost settings.completionsUrl key (requestBody settings.model code intent) =
      .error failure) :
    revise settings code intent = .done (.error (.transport failure.message)) := by
  rw [revise, hkey]
  dsimp only
  rw [h]

/-- A request that can be prepared is sent, once, and all that happens then depends on its reply. -/
theorem revise_of_prepared {request : Request} (hkey : settings.apiKey = some key)
    (h : preparePost settings.completionsUrl key (requestBody settings.model code intent) =
      .ok request) :
    revise settings code intent =
      .ask request fun reply => .done (ofReply request.url.text reply) := by
  rw [revise, hkey]
  dsimp only
  rw [h]

/-- The request to revise code, if there is a credential and one can be prepared. -/
def Settings.request? (settings : Settings) (code intent : String) : Option Request :=
  settings.apiKey.bind fun key => (preparePost settings.completionsUrl key
    (requestBody settings.model code intent)).toOption

/-- To revise is to ask at most once, with the request that settings, code and intent make, and to
read what comes back. -/
theorem readsOnce_revise (settings : Settings) (code intent : String) :
    (revise settings code intent).ReadsOnce Reads (settings.request? code intent) := by
  rw [Settings.request?]
  cases hkey : settings.apiKey with
  | none =>
    rw [revise, hkey]
    exact .unasked _
  | some key =>
    rw [Option.bind_some]
    cases hprepared : preparePost settings.completionsUrl key
        (requestBody settings.model code intent) with
    | error failure =>
      rw [revise_of_unprepared hkey hprepared]
      exact .unasked _
    | ok request =>
      rw [revise_of_prepared hkey hprepared]
      exact .asked fun reply => ⟨_, rfl, reads_ofReply _ reply⟩

end Assistant

end FlowScript
