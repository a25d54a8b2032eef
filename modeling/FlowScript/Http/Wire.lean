import FlowScript.Http.Message
import FlowScript.Text.CharClass

/-!
# Requests and replies on the wire

How a request is written on a connection, and what the bytes that come back mean. The
connection serves one request, and the server closes it behind the reply; so the body is
over at the length that the reply declares, or else where the bytes are over.
-/

namespace FlowScript

namespace Http

/-! ### Requests -/

/-- The host to connect to, without brackets, and the number behind it. -/
def Url.destination? (url : Url) : Option (String × Nat) := do
  let (host, number) := Url.cutNumber false (← url.authority).toList
  let bare := host.filter fun c => c != '[' && c != ']'
  let usual ← Url.usualNumber? url.scheme
  some (String.ofList bare, (number.bind (naturalIn? 10)).getD usual)

/-- The header of a request. -/
def Request.headerLines (request : Request) : List String :=
  let field := fun (name : String) (value : Option String) =>
    value.toList.map fun text => name ++ ": " ++ text
  let length := toString (Text.Utf8.encode request.body.toList).length
  [request.method.text ++ " " ++ request.url.target ++ " HTTP/1.0"] ++
    field "host" request.url.authority ++ field "accept" (some "*/*") ++
    field "x-n8n-api-key" request.apiKey ++ field "authorization" request.authorization ++
    field "content-type" request.contentType ++
    field "content-length" (if request.method = .post then some length else none)

/-- A request as bytes. -/
def Request.wire (request : Request) : List UInt8 :=
  let header := String.join (request.headerLines.map fun line => line ++ "\r\n")
  Text.Utf8.encode (header ++ "\r\n" ++ request.body).toList

/-! ### Replies -/

/-- The first line of some bytes, without its line end, and what follows it. -/
def cutLine? : List UInt8 → Option (List UInt8 × List UInt8)
  | 13 :: 10 :: rest => some ([], rest)
  | byte :: rest => (cutLine? rest).map fun (line, after) => (byte :: line, after)
  | [] => none

/-- What follows a line is shorter than the whole. -/
theorem cutLine?_length {bytes line rest : List UInt8} (h : cutLine? bytes = some (line, rest)) :
    rest.length < bytes.length := by
  fun_induction cutLine? bytes generalizing line rest with
  | case1 after =>
    obtain ⟨rfl, rfl⟩ := Prod.mk.inj (Option.some.inj h)
    simp only [List.length_cons]
    omega
  | case2 byte after _ ih =>
    obtain ⟨⟨found, behind⟩, hcut, heq⟩ := Option.map_eq_some_iff.1 h
    obtain ⟨rfl, rfl⟩ := Prod.mk.inj heq
    have := ih hcut
    simp only [List.length_cons]
    omega
  | case3 => simp at h

/-- The lines up to the first empty one, and what follows it. -/
def cutHeader? (bytes : List UInt8) : Option (List String × List UInt8) :=
  match h : cutLine? bytes with
  | none => none
  | some ([], rest) => some ([], rest)
  | some (byte :: line, rest) =>
    have := cutLine?_length h
    (cutHeader? rest).map fun (lines, after) =>
      (Text.Utf8.tolerant (byte :: line) :: lines, after)
termination_by bytes.length

/-- The status in the first line of a reply. -/
def statusOf? (line : String) : Option Nat :=
  match Text.cut ' ' line.toList with
  | version :: digits :: _ =>
    if "HTTP/1.".toList.isPrefixOf version then naturalIn? 10 digits else none
  | _ => none

/-- The length of the body that a header declares. -/
def declaredLength? (lines : List String) : Option Nat :=
  lines.findSome? fun line =>
    let (name, value) := Url.spanUntil (· == ':') line.toList
    if name.map Char.toLower == "content-length".toList then
      naturalIn? 10 (Text.trim (String.ofList value.tail)).toList
    else none

/-- What the bytes mean that came before the connection was closed. -/
def Reply.ofWire (bytes : List UInt8) : Reply :=
  match cutHeader? bytes with
  | some (first :: lines, body) =>
    match statusOf? first with
    | some status =>
      let length := (declaredLength? lines).getD body.length
      Reply.ofSent status (body.take length) (length - body.length)
    | _ => .none
  | _ => .none

end Http

end FlowScript
