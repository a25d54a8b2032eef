import FlowScript.Http.Url

/-!
# Requests and replies

A client prepares a request, which can fail before anything is sent: the URL is no URL,
or not one of the web, or a header value is not allowed. A request that is sent gets a
reply or none; of a reply the body may be cut off.
-/

namespace FlowScript

namespace Http

/-! ### Base64

Three bytes are written as four characters of an alphabet of sixty-four, and a last group
of one or two bytes is filled up with equals signs. -/

/-- The character for a value below 64. -/
def base64Char (n : Nat) : Char :=
  if n < 26 then Char.ofNat (65 + n)
  else if n < 52 then Char.ofNat (71 + n)
  else if n < 62 then Char.ofNat (n - 4)
  else if n = 62 then '+'
  else '/'

/-- The text of a byte sequence. -/
def base64 : List UInt8 → List Char
  | [] => []
  | [a] =>
    let n := a.toNat * 16
    [base64Char (n / 64), base64Char (n % 64), '=', '=']
  | [a, b] =>
    let n := (a.toNat * 256 + b.toNat) * 4
    [base64Char (n / 4096), base64Char (n / 64 % 64), base64Char (n % 64), '=']
  | a :: b :: c :: rest =>
    let n := (a.toNat * 256 + b.toNat) * 256 + c.toNat
    base64Char (n / 262144) :: base64Char (n / 4096 % 64) :: base64Char (n / 64 % 64) ::
      base64Char (n % 64) :: base64 rest

/-! ### Failures -/

/-- Why an exchange failed. -/
inductive Failure where
  /-- no request could be prepared -/
  | unprepared
  /-- the URL is not one that can be asked -/
  | refusedUrl (url : String)
  /-- no reply came -/
  | noReply (url : String)
  /-- the body of the reply was cut off, or is not what it should be -/
  | badBody
deriving DecidableEq

/-- The wording of a failure. -/
def Failure.message : Failure → String
  | .unprepared => "builder error"
  | .refusedUrl url => "builder error for url (" ++ url ++ ")"
  | .noReply url => "error sending request for url (" ++ url ++ ")"
  | .badBody => "error decoding response body"

/-! ### Requests -/

/-- What is done with a resource. -/
inductive Method where
  /-- read it -/
  | get
  /-- send it something -/
  | post
deriving DecidableEq

/-- The name of a method. -/
def Method.text : Method → String
  | .get => "GET"
  | .post => "POST"

/-- A request that can be sent. -/
structure Request where
  /-- what is done -/
  method : Method
  /-- to which resource -/
  url : Url
  /-- the key that the workflow store asks for -/
  apiKey : Option String := none
  /-- the credential -/
  authorization : Option String := none
  /-- the type of the body -/
  contentType : Option String := none
  /-- the body -/
  body : String := ""
  /-- how many milliseconds to wait for the reply, if not for ever -/
  patience : Option Nat := none
deriving DecidableEq

/-- Characters that a header value may hold. -/
def isHeaderChar (c : Char) : Bool := c == '\t' || (32 ≤ c.toNat && c.toNat != 127)

/-- Whether a text can be a header value. -/
def isHeaderValue (value : String) : Bool := value.toList.all isHeaderChar

/-- The credential that stands in a URL, as a header value. -/
def basicAuthorization (credentials : String × Option String) : String :=
  let plain := credentials.1 ++ ":" ++ credentials.2.getD ""
  "Basic " ++ String.ofList (base64 (Text.Utf8.encode plain.toList))

/-- A URL to which a request can be prepared. -/
def prepareUrl (text : String) : Except Failure Url :=
  match Url.parse? text with
  | none => .error .unprepared
  | some url => if url.hasHost then .ok url else .error (.refusedUrl url.text)

/-- Characters of a host that a URL may hold and a request line may not. -/
def isOddHostChar (c : Char) : Bool :=
  c == '\x22' || c == '\x60' || c == '\x7b' || c == '\x7d'

/-- Whether a URL can be asked: it is one of the web, and its host can be written. -/
def canAsk (url : Url) : Bool :=
  (url.scheme == "http" || url.scheme == "https") &&
    !((url.authority.getD "").toList.any isOddHostChar)

/-- A request that can be sent, if its URL can be asked. -/
def checkedRequest (request : Request) : Except Failure Request :=
  if canAsk request.url then .ok request else .error (.refusedUrl request.url.text)

/-- Prepares reading a resource, with parameters. -/
def prepareGet (url : String) (pairs : List (String × String)) (apiKey : Option String)
    (patience : Option Nat) : Except Failure Request := do
  let url ← prepareUrl url
  checkedRequest
    { method := .get, url := url.withPairs pairs, apiKey,
      authorization := url.credentials.map basicAuthorization, patience }

/-- Prepares sending a JSON text with a bearer's credential. -/
def preparePost (url : String) (bearer body : String) : Except Failure Request := do
  let url ← prepareUrl url
  let authorization := "Bearer " ++ bearer
  if isHeaderValue authorization then
    checkedRequest
      { method := .post, url, authorization := some authorization,
        contentType := some "application/json", body }
  else .error .unprepared

/-! ### Replies -/

/-- What comes back from a request in the end. If a server sends the client on to another URL,
then this is what came back from there: following such replies is no part of a client here, nor
does it count as another request. -/
inductive Reply where
  /-- nothing: the connection was refused, closed or silent -/
  | none
  /-- a status, and a body that arrived whole or not -/
  | answer (status : Nat) (body : List UInt8) (complete : Bool)
deriving DecidableEq

/-- Whether a status says that the request succeeded. -/
def isSuccess (status : Nat) : Bool := 200 ≤ status && status < 300

/-- What arrives of a reply of which a number of bytes goes missing. A reply that says
there is nothing new has no body, and a status of the wrong form is no reply. -/
def Reply.ofSent (status : Nat) (body : List UInt8) (missing : Nat) : Reply :=
  if status < 200 || 999 < status then .none
  else if status = 204 || status = 304 then .answer status [] true
  else .answer status body (missing == 0)

end Http

end FlowScript
