import FlowScript.Proofs.Session

/-!
# Sessions that differ in their keys

Keys are sent in two headers of a request. With these blackened, it can no longer be told which
keys there were, only that there were some (`Request.redacted`). Two sessions are the same but
for the keys if they do the same things at every step and send requests that are the same when
redacted (`Session.SameButKeys`). Nobody but the server sees a difference between such sessions:
they have the same result, the same effect on files and input, and the same redacted exchanges
(`Session.SameButKeys.play`).
-/

namespace FlowScript

open Http Dialogue

/-- Attempts that cannot be told apart behind a function have failed alike, or both succeeded. -/
theorem cases_of_map_eq_map {ε α β : Type} {f : α → β} {attempt other : Except ε α}
    (h : attempt.map f = other.map f) :
    (∃ error, attempt = .error error ∧ other = .error error) ∨
      ∃ a b, attempt = .ok a ∧ other = .ok b ∧ f a = f b := by
  cases attempt with
  | error error =>
    cases other with
    | error second =>
      have herror : error = second := Except.error.inj h
      exact .inl ⟨error, rfl, by rw [herror]⟩
    | ok b => cases h
  | ok a =>
    cases other with
    | error second => cases h
    | ok b => exact .inr ⟨a, b, rfl, rfl, Except.ok.inj h⟩

/-! ### Requests -/

namespace Http

/-- A request whose keys are blackened: it shows that they are there, and not which. -/
def Request.redacted (request : Request) : Request :=
  { request with
    apiKey := request.apiKey.map fun _ => ""
    authorization := request.authorization.map fun _ => "" }

/-- Requests that are equal without their keys go to one address: the keys stand in headers only. -/
theorem Request.url_eq_of_redacted {request other : Request}
    (h : request.redacted = other.redacted) : request.url = other.url := by
  have hurl : request.redacted.url = other.redacted.url := by rw [h]
  exact hurl

/-- Whether a request can be sent depends on its address, which the keys are no part of. -/
theorem checkedRequest_redacted {request other : Request}
    (h : request.redacted = other.redacted) :
    (checkedRequest request).map Request.redacted =
      (checkedRequest other).map Request.redacted := by
  unfold checkedRequest
  rw [Request.url_eq_of_redacted h]
  split
  · exact congrArg Except.ok h
  · rfl

/-- Which key it is does not matter to preparing a request for a document. -/
theorem prepareGet_redacted (url : String) (pairs : List (String × String))
    {apiKey other : Option String} (patience : Option Nat)
    (h : apiKey.isSome = other.isSome) :
    (prepareGet url pairs apiKey patience).map Request.redacted =
      (prepareGet url pairs other patience).map Request.redacted := by
  unfold prepareGet
  cases prepareUrl url with
  | error failure => rfl
  | ok target =>
    cases apiKey with
    | none =>
      obtain rfl : other = none := Option.not_isSome_iff_eq_none.1 (by simp [← h])
      rfl
    | some key =>
      obtain ⟨second, rfl⟩ := Option.isSome_iff_exists.1 h.symm
      exact checkedRequest_redacted rfl

/-- Nor does it to preparing one with a bearer's credential, as long as the credential can be
sent. -/
theorem preparePost_redacted (url body : String) {bearer other : String}
    (hbearer : isHeaderValue ("Bearer " ++ bearer) = true)
    (hother : isHeaderValue ("Bearer " ++ other) = true) :
    (preparePost url bearer body).map Request.redacted =
      (preparePost url other body).map Request.redacted := by
  unfold preparePost
  cases prepareUrl url with
  | error failure => rfl
  | ok target =>
    change Except.map _ (if _ then _ else _) = Except.map _ (if _ then _ else _)
    rw [if_pos hbearer, if_pos hother]
    exact checkedRequest_redacted rfl

end Http

/-! ### Sessions -/

namespace Session

variable {α β : Type}

/-- Two sessions do the same at every step, but for the keys in the requests that they send. -/
inductive SameButKeys : Session α → Session α → Prop where
  /-- both are over, with the same result -/
  | done (result : α) : SameButKeys (.done result) (.done result)
  /-- both send a request, and it is the same when redacted -/
  | ask {request other : Request} {next follow : Reply → Session α}
      (hrequest : request.redacted = other.redacted)
      (hnext : ∀ reply, SameButKeys (next reply) (follow reply)) :
      SameButKeys (.ask request next) (.ask other follow)
  /-- both read the same file -/
  | readFile (path : String) {next follow : Except FileFault (List UInt8) → Session α}
      (hnext : ∀ content, SameButKeys (next content) (follow content)) :
      SameButKeys (.readFile path next) (.readFile path follow)
  /-- both look for a file of the same name -/
  | findFile (name : String) {next follow : Option (List UInt8) → Session α}
      (hnext : ∀ content, SameButKeys (next content) (follow content)) :
      SameButKeys (.findFile name next) (.findFile name follow)
  /-- both read the input -/
  | readInput {next follow : List UInt8 → Session α}
      (hnext : ∀ content, SameButKeys (next content) (follow content)) :
      SameButKeys (.readInput next) (.readInput follow)
  /-- both write the same to the same file -/
  | writeFile (path : String) (content : List UInt8)
      {next follow : Except FileFault Unit → Session α}
      (hnext : ∀ written, SameButKeys (next written) (follow written)) :
      SameButKeys (.writeFile path content next) (.writeFile path content follow)

theorem World.Alike.refl (world : World) : world.Alike world := ⟨rfl, rfl, rfl, rfl⟩

/-- Requests that are the same when redacted get the same reply, and leave worlds that are alike. -/
theorem World.Alike.answer_redacted {world mirror : World} (h : world.Alike mirror)
    {request other : Request} (hrequest : request.redacted = other.redacted) :
    (world.server.answer request).1 = (mirror.server.answer other).1 ∧
      World.Alike { world with server := (world.server.answer request).2 }
        { mirror with server := (mirror.server.answer other).2 } := by
  have hreached : world.server.isReached request = mirror.server.isReached other := by
    rw [Server.isReached, Server.isReached, h.reaches, Request.url_eq_of_redacted hrequest]
  rw [Server.answer, Server.answer, hreached, h.replies]
  split
  · exact ⟨rfl, h.reaches, rfl, h.folder, h.input⟩
  · exact ⟨rfl, h.reaches, h.replies, h.folder, h.input⟩

namespace SameButKeys

theorem refl (session : Session α) : SameButKeys session session := by
  induction session with
  | done result => exact .done result
  | ask request next ih => exact .ask rfl ih
  | readFile path next ih => exact .readFile path ih
  | findFile name next ih => exact .findFile name ih
  | readInput next ih => exact .readInput ih
  | writeFile path content next ih => exact .writeFile path content ih

/-- **Sessions in a row.** If the first parts are the same but for keys, both give one result, and
the second parts go on from there. -/
theorem bind {session other : Session α} {f g : α → Session β} (h : SameButKeys session other)
    (hnext : ∀ a, SameButKeys (f a) (g a)) : SameButKeys (session >>= f) (other >>= g) := by
  induction h with
  | done result => exact hnext result
  | ask hrequest _ ih => exact .ask hrequest ih
  | readFile path _ ih => exact .readFile path ih
  | findFile name _ ih => exact .findFile name ih
  | readInput _ ih => exact .readInput ih
  | writeFile path content _ ih => exact .writeFile path content ih

/-- Sessions that are the same but for the keys are seen to be the same but for the keys, in worlds
that are alike. -/
theorem play {session other : Session α} (h : SameButKeys session other) {world mirror : World}
    (halike : world.Alike mirror) :
    (session.play world).1 = (other.play mirror).1 ∧
      (session.exchanges world).map (Prod.map Request.redacted id) =
        (other.exchanges mirror).map (Prod.map Request.redacted id) ∧
      (session.play world).2.Alike (other.play mirror).2 := by
  induction h generalizing world mirror with
  | done result => exact ⟨rfl, rfl, halike⟩
  | ask hrequest _ ih =>
    obtain ⟨hreply, hafter⟩ := halike.answer_redacted hrequest
    obtain ⟨hresult, hsent, hleft⟩ := ih _ hafter
    rw [Session.play, Session.play, exchanges, exchanges]
    dsimp only
    rw [← hreply]
    exact ⟨hresult, by rw [List.map_cons, List.map_cons, hsent, Prod.map, Prod.map, hrequest],
      hleft⟩
  | readFile path _ ih =>
    rw [Session.play, Session.play, exchanges, exchanges, halike.folder]
    exact ih _ halike
  | findFile name _ ih =>
    rw [Session.play, Session.play, exchanges, exchanges, halike.folder]
    exact ih _ halike
  | readInput _ ih =>
    rw [Session.play, Session.play, exchanges, exchanges, halike.input]
    exact ih _ ⟨halike.reaches, halike.replies, halike.folder, rfl⟩
  | writeFile path content _ ih =>
    rw [Session.play, Session.play, exchanges, exchanges, halike.folder]
    exact ih _ ⟨halike.reaches, halike.replies, rfl, halike.input⟩

end SameButKeys

end Session

end FlowScript
