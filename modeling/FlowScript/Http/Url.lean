import FlowScript.Http.Host

/-!
# URLs

Reading a URL as browsers do: blanks around it and line breaks in it are dropped, the
scheme is lowered, dots in the path are resolved, and characters that a part may not
hold are encoded. A web scheme needs a host; other schemes are read as well, so that a
client can say what it refuses.

* `Url.parse?` reads a text.
* `Url.text` writes the normal form, without the credentials, which are sent apart.
* `Url.withPairs` adds parameters to the query.
-/

namespace FlowScript

namespace Http

/-- A URL in normal form. -/
structure Url where
  /-- the scheme, in lower case -/
  scheme : String
  /-- user name and password, decoded -/
  credentials : Option (String × Option String) := none
  /-- host, and a number behind a colon unless it is the usual one; none if the scheme is
  not followed by two slashes -/
  authority : Option String
  /-- the path, encoded -/
  path : String
  /-- the query, encoded -/
  query : Option String := none
  /-- the fragment, encoded -/
  fragment : Option String := none
deriving DecidableEq

namespace Url

/-! ### Schemes -/

/-- The schemes whose URLs always have a host, with the number that is usual behind it. -/
def webSchemes : List (String × Nat) :=
  [("http", 80), ("https", 443), ("ws", 80), ("wss", 443), ("ftp", 21)]

/-- Whether a scheme is one of files or of the web. -/
def isSpecial (scheme : String) : Bool :=
  scheme == "file" || webSchemes.any fun (name, _) => name == scheme

/-- The number that is usual behind a host. -/
def usualNumber? (scheme : String) : Option Nat := webSchemes.lookup scheme

/-- Characters of a scheme behind its first. -/
def isSchemeChar (c : Char) : Bool := c.isAlphanum || c == '+' || c == '-' || c == '.'

/-- The scheme, in lower case, and what follows its colon. -/
def readScheme? (cs : List Char) : Option (String × List Char) :=
  match cs with
  | c :: _ =>
    if c.isAlpha then
      match cs.dropWhile isSchemeChar with
      | ':' :: rest => some (String.ofList ((cs.takeWhile isSchemeChar).map Char.toLower), rest)
      | _ => none
    else none
  | [] => none

/-! ### Authority -/

/-- A part between delimiters, and the rest from the delimiter on. -/
def spanUntil (stop : Char → Bool) (cs : List Char) : List Char × List Char :=
  (cs.takeWhile fun c => !stop c, cs.dropWhile fun c => !stop c)

/-- What ends the authority. -/
def endsAuthority (special : Bool) (c : Char) : Bool :=
  c == '/' || c == '?' || c == '#' || (special && c == '\\')

/-- The parts before and behind the last at-sign, if there is one. -/
def cutLastAt (cs : List Char) : Option (List Char × List Char) :=
  if cs.contains '@' then
    let back := (cs.reverse.takeWhile (· != '@')).reverse
    some (cs.take (cs.length - back.length - 1), back)
  else none

/-- Decoded text, if its bytes form characters. -/
def decoded? (cs : List Char) : Option String := Text.Utf8.strict? (percentDecode cs)

/-- User name and password from the part before the at-sign; an empty password is none. -/
def credentialsOf (cs : List Char) : Option (String × Option String) :=
  let (user, rest) := spanUntil (· == ':') cs
  let password := match rest with
    | _ :: c :: more => decoded? (c :: more)
    | _ => none
  match decoded? user with
  | some user => if user == "" && password.isNone then none else some (user, password)
  | none => none

/-- The host part and the number part of an authority; a colon within brackets belongs to
the host. -/
def cutNumber : Bool → List Char → List Char × Option (List Char)
  | _, [] => ([], none)
  | inBrackets, c :: rest =>
    if c == ':' && !inBrackets then ([], some rest)
    else
      let (host, number) := cutNumber (c == '[' || (inBrackets && c != ']')) rest
      (c :: host, number)

/-- The number behind a host: `some none` if there is none to show. -/
def numberOf? (scheme : String) : Option (List Char) → Option (Option Nat)
  | none => some none
  | some [] => some none
  | some digits =>
    match naturalIn? 10 digits with
    | some n =>
      if 65535 < n then none else some (if usualNumber? scheme == some n then none else some n)
    | none => none

/-- Credentials and authority from what stands between the slashes and the path. -/
def readAuthority? (scheme : String) (cs : List Char) :
    Option (Option (String × Option String) × String) := do
  let (credentials, hostPart) := match cutLastAt cs with
    | some (user, host) => (credentialsOf user, host)
    | none => (none, cs)
  let (host, number) := cutNumber false hostPart
  if host.isEmpty then
    if scheme != "file" && (isSpecial scheme || number.isSome || cs.contains '@') then none
    else some (credentials, "")
  else
    let host ← if isSpecial scheme then hostText? host else opaqueHostText? host
    let shown := match ← numberOf? scheme number with
      | some n => ':' :: Nat.toDigits 10 n
      | none => []
    some (credentials, String.ofList (host ++ shown))

/-! ### Path -/

/-- The spellings of a dot in a path. -/
def dots : List (List Char) := [['.'], ['%', '2', 'e'], ['%', '2', 'E']]

/-- Whether a segment stands for its own directory. -/
def isSingleDot (segment : List Char) : Bool := dots.contains segment

/-- Whether a segment stands for the directory above. -/
def isDoubleDot (segment : List Char) : Bool :=
  dots.any fun a => dots.any fun b => segment == a ++ b

/-- Resolves the dots among segments; the segments before are given last first. A dot at
the end leaves an empty segment. -/
def resolveFrom (before : List (List Char)) : List (List Char) → List (List Char)
  | [] => before.reverse
  | [last] =>
    if isDoubleDot last then ([] :: before.tail).reverse
    else if isSingleDot last then ([] :: before).reverse
    else (last :: before).reverse
  | segment :: rest =>
    if isDoubleDot segment then resolveFrom before.tail rest
    else if isSingleDot segment then resolveFrom before rest
    else resolveFrom (segment :: before) rest

/-- A path from its segments. -/
def pathText (segments : List (List Char)) : List Char :=
  segments.flatMap fun segment => '/' :: segment

/-- The normal form of a path that begins at the root. -/
def rootedPath (special : Bool) (cs : List Char) : List Char :=
  let cs := if special then cs.map fun c => if c == '\\' then '/' else c else cs
  let relative := match cs with
    | '/' :: rest => rest
    | _ => cs
  pathText (resolveFrom [] ((Text.cut '/' relative).map (percentEncode keepPath)))

/-! ### The whole -/

/-- Blanks and controls, which are dropped at both ends. -/
def isMargin (c : Char) : Bool := c.toNat ≤ 32

/-- Without margins, and without tabs and line breaks anywhere. -/
def clean (cs : List Char) : List Char :=
  let trimmed := ((cs.dropWhile isMargin).reverse.dropWhile isMargin).reverse
  trimmed.filter fun c => c != '\t' && c != '\n' && c != '\r'

/-- Reads query and fragment behind a path. -/
def readTail (special : Bool) (cs : List Char) : Option String × Option String :=
  let fragmentOf := fun (cs : List Char) => match cs with
    | '#' :: rest => some (String.ofList (percentEncode keepFragment rest))
    | _ => none
  match cs with
  | '?' :: rest =>
    let (query, rest) := spanUntil (· == '#') rest
    (some (String.ofList (percentEncode (keepQuery special) query)), fragmentOf rest)
  | _ => (none, fragmentOf cs)

/-- A URL whose path, and what follows it, are still to be read. -/
def withPath (scheme : String) (credentials : Option (String × Option String))
    (authority : Option String) (path : List Char → List Char) (cs : List Char) : Url :=
  let (pathPart, rest) := spanUntil (fun c => c == '?' || c == '#') cs
  let (query, fragment) := readTail (isSpecial scheme) rest
  { scheme, credentials, authority, path := String.ofList (path pathPart), query, fragment }

/-- Reads a URL. -/
def parse? (text : String) : Option Url := do
  let (scheme, rest) ← readScheme? (clean text.toList)
  let special := isSpecial scheme
  let afterSlashes : Option (List Char) :=
    if special && scheme != "file" then some (rest.dropWhile fun c => c == '/' || c == '\\')
    else match rest with
      | '/' :: '/' :: more => some more
      | _ => none
  match afterSlashes with
  | some cs =>
    let (authorityPart, rest) := spanUntil (endsAuthority special) cs
    let (credentials, authority) ← readAuthority? scheme authorityPart
    let path := fun (cs : List Char) =>
      if cs.isEmpty && !special then [] else rootedPath special cs
    some (withPath scheme credentials (some authority) path rest)
  | none =>
    match rest with
    | '/' :: _ => some (withPath scheme none none (rootedPath special) rest)
    | _ =>
      if special then some (withPath scheme none (some "") (rootedPath special) rest)
      else some (withPath scheme none none (percentEncode keepOpaque) rest)

/-- The parts of a URL that are sent: the path, and the query behind a question mark. -/
def target (url : Url) : String :=
  match url.query with
  | some query => url.path ++ "?" ++ query
  | none => url.path

/-- The text of a URL, without credentials. -/
def text (url : Url) : String :=
  let authority := match url.authority with
    | some authority => "//" ++ authority
    | none => ""
  let fragment := match url.fragment with
    | some fragment => "#" ++ fragment
    | none => ""
  url.scheme ++ ":" ++ authority ++ url.target ++ fragment

/-- Whether the URL names a host. -/
def hasHost (url : Url) : Bool := url.authority.any (· != "")

end Url

/-! ### Addresses of resources

A service is told by a base address, to which the path of a resource is added. Slashes at
the end of the base do not count. -/

/-- A text without the slashes at its end. -/
def withoutFinalSlashes (text : String) : String :=
  String.ofList (text.toList.reverse.dropWhile (· == '/')).reverse

/-- The address of a resource below a base. -/
def resourceUrl (base path : String) : String := withoutFinalSlashes base ++ path

/-! ### Form encoding

Parameters in a query: pairs of a name and a value, joined by `&`, name and value by `=`.
Letters, digits and four marks stand for themselves, a space is a plus sign, and all
other bytes are percent-encoded, so that a name or value never holds `&`, `=` or `#`. -/

/-- Characters that stand for themselves in a form. -/
def keepForm (c : Char) : Bool :=
  c.isAlphanum || c == '*' || c == '-' || c == '.' || c == '_'

/-- The encoded form of a character. -/
def formChar (c : Char) : List Char :=
  if c == ' ' then ['+'] else if keepForm c then [c] else percentChar c

/-- The encoded form of a name or a value. -/
def formText (s : String) : List Char := s.toList.flatMap formChar

/-- The encoded form of a pair. -/
def formPair (pair : String × String) : List Char :=
  formText pair.1 ++ '=' :: formText pair.2

/-- The encoded form of a list of pairs. -/
def formPairs (pairs : List (String × String)) : List Char :=
  Text.joinWith '&' (pairs.map formPair)

/-- The URL with parameters added to its query. Without any, an empty query is dropped. -/
def Url.withPairs (url : Url) (pairs : List (String × String)) : Url :=
  let query := url.query.getD ""
  if pairs.isEmpty then { url with query := if query == "" then none else some query }
  else
    let start := if query == "" then "" else query ++ "&"
    { url with query := some (start ++ String.ofList (formPairs pairs)) }

end Http

end FlowScript
