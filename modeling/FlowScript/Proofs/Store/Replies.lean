import FlowScript.Proofs.Http.Replies
import FlowScript.Proofs.Json.Record
import FlowScript.Store.Client

/-!
# What is made of the store's replies

Every reply of the store falls into one of four classes, and the result tells which
(`Reads`). That all of the reply arrived counts before its status, and the status before what
stands in the reply.
-/

namespace FlowScript

namespace Store

open Http Json

variable {α : Type} {decoder : Decoder α} {url text : String} {reply : Reply} {status : Nat}
  {body : List UInt8}

/-! ### Classes -/

/-- What is made of a reply. -/
structure Reads (decoder : Decoder α) (reply : Reply) (result : Except Error α) : Prop where
  /-- the connection is at fault exactly if nothing came, or not all -/
  connection : (∃ text, result = .error (.connection text)) ↔
    reply = .none ∨ ∃ status body, reply = .answer status body false
  /-- the server is, exactly if all came and the status is none of success; what came is shown -/
  server (status : Nat) (text : String) : result = .error (.server status text) ↔
    ∃ body, reply = .answer status body true ∧ ¬ (200 ≤ status ∧ status ≤ 299) ∧
      Text.Utf8.tolerant body = text
  /-- there is a value exactly if all came with success and reads as the value -/
  decoded (value : α) : result = .ok value ↔
    ∃ status body, reply = .answer status body true ∧ (200 ≤ status ∧ status ≤ 299) ∧
      decoder.parse (Source.ofString (Text.Utf8.tolerant body)) = .ok value
  /-- what is written is at fault exactly if all came with success and reads as no value -/
  serialization : (∃ text, result = .error (.serialization text)) ↔
    ∃ status body, reply = .answer status body true ∧ (200 ≤ status ∧ status ≤ 299) ∧
      ∀ value, decoder.parse (Source.ofString (Text.Utf8.tolerant body)) ≠ .ok value
  /-- the settings never are -/
  configuration (text : String) : result ≠ .error (.configuration text)

/-- No reply, or one that was cut off, is a matter of the connection, whatever status came with
it. -/
theorem reads_lost (h : reply = .none ∨ ∃ status body, reply = .answer status body false) :
    Reads decoder reply (.error (.connection text)) := by
  constructor <;> rcases h with rfl | ⟨status, body, rfl⟩ <;> simp

/-- A complete reply with another status is told with its body, where what is no text is
replaced. -/
theorem reads_refusal (h : ¬ (200 ≤ status ∧ status ≤ 299)) :
    Reads decoder (.answer status body true)
      (.error (.server status (Text.Utf8.tolerant body))) := by
  refine ⟨by simp, fun other text => ⟨?_, ?_⟩, fun value => ⟨?_, ?_⟩, ⟨?_, ?_⟩, by simp⟩
  · intro hresult
    cases hresult
    exact ⟨body, rfl, h, rfl⟩
  · rintro ⟨_, hreply, -, rfl⟩
    cases hreply
    rfl
  · intro hresult
    cases hresult
  · rintro ⟨_, _, hreply, hsuccess, -⟩
    cases hreply
    exact absurd hsuccess h
  · rintro ⟨_, hresult⟩
    cases hresult
  · rintro ⟨_, _, hreply, hsuccess, -⟩
    cases hreply
    exact absurd hsuccess h

/-- A complete success is read as what was asked for. -/
theorem reads_value (h : 200 ≤ status ∧ status ≤ 299) {value : α}
    (hvalue : decoder.parse (Source.ofString (Text.Utf8.tolerant body)) = .ok value) :
    Reads decoder (.answer status body true) (.ok value) := by
  constructor <;> simp [hvalue, h]

/-- A complete success that is not what was asked for is garbled, and that is another error. -/
theorem reads_garbled (h : 200 ≤ status ∧ status ≤ 299)
    (hvalue : ∀ value, decoder.parse (Source.ofString (Text.Utf8.tolerant body)) ≠ .ok value) :
    Reads decoder (.answer status body true) (.error (.serialization text)) := by
  constructor <;> simp [hvalue, h]

theorem ofReply_of_refusal (h : isSuccess status = false) :
    ofReply decoder url (.answer status body true) =
      .error (.server status (Text.Utf8.tolerant body)) := by
  rw [ofReply, h]
  rfl

theorem ofReply_of_success (h : isSuccess status = true) :
    ofReply decoder url (.answer status body true) =
      (decoder.parse (Source.ofString (Text.Utf8.tolerant body))).mapError fun fault =>
        .serialization (fault.message (Source.ofString (Text.Utf8.tolerant body))) := by
  rw [ofReply, h]
  rfl

/-- **Every reply is read** in one of the four ways; whether it is complete is asked before its
status, and its status before what it says. -/
theorem reads_ofReply (decoder : Decoder α) (url : String) (reply : Reply) :
    Reads decoder reply (ofReply decoder url reply) := by
  cases reply with
  | none => exact reads_lost (.inl rfl)
  | answer status body complete =>
    cases complete with
    | false => exact reads_lost (.inr ⟨status, body, rfl⟩)
    | true =>
      cases hsuccess : isSuccess status with
      | false =>
        rw [ofReply_of_refusal hsuccess]
        exact reads_refusal (mt isSuccess_iff.2 (Bool.eq_false_iff.1 hsuccess))
      | true =>
        rw [ofReply_of_success hsuccess]
        cases hparse : decoder.parse (Source.ofString (Text.Utf8.tolerant body)) with
        | error fault =>
          refine reads_garbled (isSuccess_iff.1 hsuccess) fun value => ?_
          rw [hparse]
          exact error_ne_ok
        | ok value => exact reads_value (isSuccess_iff.1 hsuccess) hparse

/-! ### Calls -/

/-- The request for a document at a path below the root, if one can be prepared. -/
def Client.request? (client : Client) (path : String) (pairs : List (String × String)) :
    Option Request :=
  (prepareGet (client.settings.apiUrl ++ path) pairs client.settings.apiKey
    client.settings.timeout).toOption

/-- To get something from the store is to ask once and read the reply, if the request can be
prepared. -/
theorem readsOnce_get (client : Client) (decoder : Decoder α) (path : String)
    (pairs : List (String × String)) :
    (client.get decoder path pairs).ReadsOnce (Reads decoder) (client.request? path pairs) := by
  rw [Client.get, Client.request?]
  cases prepareGet (client.settings.apiUrl ++ path) pairs client.settings.apiKey
      client.settings.timeout with
  | error failure => exact .unasked _
  | ok request => exact .asked fun reply => ⟨_, rfl, reads_ofReply decoder _ reply⟩

end Store

end FlowScript
