import FlowScript.Proofs.Http.Base
import FlowScript.Proofs.Http.Form
import FlowScript.Proofs.Store.Addressing
import FlowScript.Proofs.Store.Replies

/-!
# Asking for a page

The options with which a page of workflows is asked for become the query of the request. A reader
of the query finds the options that are set and nothing else (`Asks.pairs`), so whatever text a
name or a cursor is, it stays one value (`Asks.found`), and different options are different
requests.

That holds below every base in which neither a query nor a fragment begins.
-/

namespace FlowScript

namespace Store

open Http Url

/-! ### Options as parameters -/

namespace ListOptions

/-- The options that parameters say. -/
def ofPairs (pairs : List (String × String)) : ListOptions where
  active := (pairs.lookup "active").map (· == "true")
  name := pairs.lookup "name"
  limit := (pairs.lookup "limit").map fun text => Nat.ofDigitChars 10 text.toList 0
  cursor := pairs.lookup "cursor"

/-- The options that are set, one by one. -/
theorem pairs_eq (options : ListOptions) :
    options.pairs =
      (options.active.toList.map fun active => ("active", toString active)) ++
        (options.name.toList.map fun name => ("name", name)) ++
        (options.limit.toList.map fun limit => ("limit", toString limit)) ++
        options.cursor.toList.map fun cursor => ("cursor", cursor) := by
  obtain ⟨active, name, limit, cursor⟩ := options
  rcases active with - | - | - <;> cases name <;> cases limit <;> cases cursor <;> rfl

/-- Each parameter is found under its name. -/
theorem lookup_pairs (options : ListOptions) :
    options.pairs.lookup "active" = options.active.map toString ∧
      options.pairs.lookup "name" = options.name ∧
      options.pairs.lookup "limit" = options.limit.map toString ∧
      options.pairs.lookup "cursor" = options.cursor := by
  obtain ⟨active, name, limit, cursor⟩ := options
  cases active <;> cases name <;> cases limit <;> cases cursor <;>
    (rw [pairs_eq]; exact ⟨rfl, rfl, rfl, rfl⟩)

/-- The parameters tell the options apart: each option has a name of its own, and its value is
written so that it can be read back. -/
theorem ofPairs_pairs (options : ListOptions) : ofPairs options.pairs = options := by
  obtain ⟨hactive, hname, hlimit, hcursor⟩ := lookup_pairs options
  have hflag : (· == "true") ∘ toString = (id : Bool → Bool) := by
    funext b
    cases b <;> rfl
  have hcount : (fun text : String => Nat.ofDigitChars 10 text.toList 0) ∘ toString = id := by
    funext n
    change Nat.ofDigitChars 10 (String.ofList (Nat.toDigits 10 n)).toList 0 = n
    rw [String.toList_ofList, Nat.ofDigitChars_ten_toDigits]
  rw [ofPairs, hactive, hname, hlimit, hcursor, Option.map_map, Option.map_map, hflag, hcount,
    Option.map_id, Option.map_id, id, id]

theorem pairs_eq_nil_iff {options : ListOptions} : options.pairs = [] ↔ options = { } := by
  constructor
  · intro h
    rw [← ofPairs_pairs options, h]
    rfl
  · rintro rfl
    rfl

end ListOptions

/-! ### The query -/

variable {url : Url} {pairs : List (String × String)}

/-- Without a query of its own, a URL has the parameters for its query, or none. -/
theorem query_withPairs (h : url.query = none) (pairs : List (String × String)) :
    (url.withPairs pairs).query =
      if pairs.isEmpty then none else some (String.ofList (formPairs pairs)) := by
  rw [Url.withPairs, h]
  split
  · rfl
  · exact congrArg some (String.empty_append)

/-- The parameters are read off the query. -/
theorem formPairsOf_query (h : url.query = none) (pairs : List (String × String)) :
    formPairsOf ((url.withPairs pairs).query.getD "").toList = pairs := by
  rw [query_withPairs h]
  split
  · next hempty =>
    rw [List.isEmpty_iff.1 hempty]
    rfl
  · rw [Option.getD_some, String.toList_ofList, formPairsOf_formPairs]

theorem query_withPairs_eq_none_iff (h : url.query = none) :
    (url.withPairs pairs).query = none ↔ pairs = [] := by
  rw [query_withPairs h, ← List.isEmpty_iff]
  split
  · next hempty => exact iff_of_true rfl hempty
  · next hne => exact iff_of_false (Option.some_ne_none _) hne

/-- At one path, what is sent tells the query. -/
theorem query_eq_of_target_eq {a b : Url} (hpath : a.path = b.path)
    (htarget : a.target = b.target) : a.query = b.query := by
  have hlonger (path query : String) : path ≠ path ++ "?" ++ query := by
    intro h
    have hlength := congrArg String.length h
    rw [String.length_append, String.length_append, show "?".length = 1 from rfl] at hlength
    omega
  rw [target, target, hpath] at htarget
  cases ha : a.query with
  | none =>
    cases hb : b.query with
    | none => rfl
    | some query =>
      rw [ha, hb] at htarget
      exact absurd htarget (hlonger _ _)
  | some first =>
    cases hb : b.query with
    | none =>
      rw [ha, hb] at htarget
      exact absurd htarget.symm (hlonger _ _)
    | some second =>
      rw [ha, hb] at htarget
      exact congrArg some (String.append_right_inj _ |>.1 htarget)

/-! ### The request -/

/-- The requests that are sent when a page is asked for. -/
def Client.listRequests (client : Client) (options : ListOptions) (server : Dialogue.Server) :
    List Request :=
  ((client.list options).transcript server).map Prod.fst

/-- The address of the list. -/
def Settings.listUrl (settings : Settings) : String := settings.apiUrl ++ "/workflows"

/-- What is sent depends on the client and the options, and not on the server. -/
theorem listRequests_eq (client : Client) (options : ListOptions) (server : Dialogue.Server) :
    client.listRequests options server =
      (prepareGet client.settings.listUrl options.pairs client.settings.apiKey
        client.settings.timeout).toOption.toList := by
  rw [Client.listRequests, Client.list, (readsOnce_get client _ _ _).requests]
  rfl

/-- What is asked for with options: they are found in the query, at a path that is the same for
all. -/
structure Asks (path : String) (options : ListOptions) (request : Request) : Prop where
  /-- something is read -/
  method : request.method = .get
  /-- at the path -/
  path : request.url.path = path
  /-- the parameters are the options that are set, in this order -/
  pairs : formPairsOf (request.url.query.getD "").toList =
    (options.active.toList.map fun active => ("active", toString active)) ++
      (options.name.toList.map fun name => ("name", name)) ++
      (options.limit.toList.map fun limit => ("limit", toString limit)) ++
      options.cursor.toList.map fun cursor => ("cursor", cursor)
  /-- whoever reads them finds the options -/
  found : ListOptions.ofPairs (formPairsOf (request.url.query.getD "").toList) = options
  /-- there is no query exactly if no option is set -/
  noQuery : request.url.query = none ↔ options = { }

/-- The path that is added to a base has neither of the two characters, so the address has none if
the base has none. -/
theorem listUrl_plain {settings : Settings}
    (h : ∀ c ∈ settings.baseUrl.toList, c ≠ '?' ∧ c ≠ '#') :
    ∀ c ∈ settings.listUrl.toList, c ≠ '?' ∧ c ≠ '#' := by
  have hpath : ∀ c ∈ "/api/v1/workflows".toList, c ≠ '?' ∧ c ≠ '#' := by simp
  obtain ⟨n, hbase⟩ := exists_eq_append_slashes settings.baseUrl
  have hurl : settings.listUrl.toList =
      (withoutFinalSlashes settings.baseUrl).toList ++ "/api/v1/workflows".toList := by
    rw [Settings.listUrl, Settings.apiUrl, resourceUrl, String.toList_append, String.toList_append,
      List.append_assoc]
    rfl
  rw [hurl]
  refine List.forall_mem_append.2 ⟨fun c hc => h c ?_, hpath⟩
  rw [hbase]
  exact List.mem_append_left _ hc

/-- Whatever is sent asks with the options. -/
theorem exists_asks {client : Client}
    (h : ∀ c ∈ client.settings.baseUrl.toList, c ≠ '?' ∧ c ≠ '#') {options : ListOptions}
    {server : Dialogue.Server} {request : Request}
    (hrequest : request ∈ client.listRequests options server) :
    ∃ url, parse? client.settings.listUrl = some url ∧ '?' ∉ url.path.toList ∧
      Asks url.path options request := by
  rw [listRequests_eq, Option.mem_toList, Json.toOption_eq_some_iff, prepareGet_eq_ok_iff]
    at hrequest
  obtain ⟨url, hparse, -, hask, rfl⟩ := hrequest
  obtain ⟨hquery, hpath⟩ := query_of_parse? hparse (isWeb_of_canAsk hask) (listUrl_plain h)
  refine ⟨url, hparse, hpath, rfl, path_withPairs _ _, ?_, ?_, ?_⟩
  · rw [← ListOptions.pairs_eq]
    exact formPairsOf_query hquery _
  · exact (congrArg _ (formPairsOf_query hquery _)).trans options.ofPairs_pairs
  · exact (query_withPairs_eq_none_iff hquery).trans ListOptions.pairs_eq_nil_iff

/-- Below a base, one request is sent. -/
theorem length_listRequests {client : Client} (h : IsBase client.settings.baseUrl)
    (options : ListOptions) (server : Dialogue.Server) :
    (client.listRequests options server).length = 1 := by
  have hmargin : ∀ c ∈ "api/v1/workflows".toList, isMargin c = false := by simp [isMargin]
  obtain ⟨url, hparse, hhost, hask⟩ := h.exists_parse? hmargin
  have hurl : withoutFinalSlashes client.settings.baseUrl ++
      String.ofList ('/' :: "api/v1/workflows".toList) = client.settings.listUrl := by
    rw [Settings.listUrl, Settings.apiUrl, resourceUrl, String.append_assoc]
    rfl
  rw [hurl] at hparse
  rw [listRequests_eq, prepareGet_eq_ok_iff.2 ⟨url, hparse, hhost, hask, rfl⟩]
  rfl

/-- **A page is asked for with exactly the options.** Take a store at an address in which neither a
query nor a fragment begins. If it is a base, one request is sent for all options. Whatever is sent
reads at a path that is the same for all options, and its query says exactly the options that are
set, in their order; there is no query if none is. So options that differ are asked for at targets
that differ. -/
theorem list_asks_with_exactly_its_options (client : Client)
    (hplain : ∀ c ∈ client.settings.baseUrl.toList, c ≠ '?' ∧ c ≠ '#') :
    (IsBase client.settings.baseUrl →
      ∀ options server, (client.listRequests options server).length = 1) ∧
    (∃ path : String, '?' ∉ path.toList ∧ ∀ options server,
      ∀ request ∈ client.listRequests options server, Asks path options request) ∧
    ∀ a b, a ≠ b → ∀ server other, ∀ first ∈ client.listRequests a server,
      ∀ second ∈ client.listRequests b other, first.url.target ≠ second.url.target := by
  have hpath : ∃ path : String, '?' ∉ path.toList ∧ ∀ options server,
      ∀ request ∈ client.listRequests options server, Asks path options request := by
    by_cases hsent : ∃ options server request, request ∈ client.listRequests options server
    · obtain ⟨_, _, _, hrequest⟩ := hsent
      obtain ⟨url, hurl, hmark, -⟩ := exists_asks hplain hrequest
      refine ⟨url.path, hmark, fun options server request hrequest => ?_⟩
      obtain ⟨same, hsame, -, hasks⟩ := exists_asks hplain hrequest
      obtain rfl : same = url := Option.some.inj (hsame.symm.trans hurl)
      exact hasks
    · refine ⟨"", List.not_mem_nil, fun options server request hrequest => ?_⟩
      exact absurd ⟨options, server, request, hrequest⟩ hsent
  refine ⟨fun hbase => length_listRequests hbase, hpath, ?_⟩
  intro a b hne server other first hfirst second hsecond htarget
  obtain ⟨path, -, hasks⟩ := hpath
  have hasksFirst := hasks a server first hfirst
  have hasksSecond := hasks b other second hsecond
  have hquery := query_eq_of_target_eq (hasksFirst.path.trans hasksSecond.path.symm) htarget
  refine hne ?_
  rw [← hasksFirst.found, ← hasksSecond.found, hquery]

/-- A store behind a path of another server. -/
def proxied : Client := ⟨{ baseUrl := "https://localhost/flows//" }⟩

/-- Options whose texts look like parameters. -/
def crafty : ListOptions where
  name := some "a&limit=9#é"
  limit := some 25
  cursor := some "= +%2B"

/-- No text adds or changes a parameter, and without the name it is another request. -/
theorem proxied_asks_with_crafty :
    (∃ request, proxied.listRequests crafty silentServer = [request] ∧
      formPairsOf (request.url.query.getD "").toList =
        [("name", "a&limit=9#é"), ("limit", "25"), ("cursor", "= +%2B")]) ∧
    ∀ first ∈ proxied.listRequests crafty silentServer,
      ∀ second ∈ proxied.listRequests { crafty with name := none } silentServer,
        first.url.target ≠ second.url.target := by
  obtain ⟨hone, ⟨path, -, hasks⟩, hdiffer⟩ :=
    list_asks_with_exactly_its_options proxied (by simp [proxied])
  obtain ⟨request, hrequest⟩ :=
    List.length_eq_one_iff.1 (hone (by decide +kernel) crafty silentServer)
  have hsent := hasks crafty silentServer request (hrequest ▸ List.mem_singleton_self _)
  exact ⟨⟨request, hrequest, hsent.pairs⟩, hdiffer _ _ (by decide) _ _⟩

end Store

end FlowScript
