import FlowScript.Proofs.Http.Base
import FlowScript.Proofs.Http.Transcript
import FlowScript.Store.Client

/-!
# Addresses of workflows

A workflow is asked for by its id, which is put behind the address of all workflows as it is and
then read as part of a URL. So an id is not always a segment of the path. A slash in it divides
segments, a question mark begins a query, a number sign ends what is sent; blanks at the end, tabs
and line breaks are dropped; and dots lead back to the folder above.

Whatever the id, one request is sent. It asks for the workflow with that id, encoded as a segment,
exactly if none of this is in the id (`IsPlain`).
-/

namespace FlowScript

namespace Store

open Http Url

/-! ### Ids -/

/-- The path of all workflows, with a slash behind it. -/
def workflowsPath : List Char := "/api/v1/workflows/".toList

/-- An id as a segment of a path. -/
def segmentOf (id : String) : List Char := percentEncode keepPath id.toList

/-- Characters that do not stand for themselves in a URL. -/
def delimiters : List Char := ['/', '\\', '?', '#', '\t', '\n', '\r']

/-- An id that a URL takes as it is. -/
structure IsPlain (id : String) : Prop where
  /-- it is not empty -/
  nonempty : id ≠ ""
  /-- none of its characters has another meaning -/
  chars : ∀ c ∈ id.toList, c ∉ delimiters
  /-- it does not end in a blank or a control -/
  last : ∀ c, id.toList.getLast? = some c → isMargin c = false
  /-- it is no spelling of the dot -/
  noDot : isSingleDot (segmentOf id) = false
  /-- it is no spelling of two dots -/
  noDots : isDoubleDot (segmentOf id) = false

theorem segmentOf_ne_nil {id : String} (h : id ≠ "") : segmentOf id ≠ [] := by
  rcases eq_or_length_percentEncode_lt keepPath (List.nil_sublist id.toList) with hnil | hlt
  · exact absurd (String.toList_eq_nil_iff.1 hnil.symm) h
  · exact List.ne_nil_of_length_pos hlt

/-- Encoding keeps slashes, and makes none: a slash in the segment is a slash of the id. -/
theorem slash_mem_segmentOf_iff {id : String} : '/' ∈ segmentOf id ↔ '/' ∈ id.toList := by
  rw [segmentOf, mem_percentEncode_iff (by decide) (by decide)]
  exact and_iff_left (by decide)

theorem backslash_mem_segmentOf_iff {id : String} : '\\' ∈ segmentOf id ↔ '\\' ∈ id.toList := by
  rw [segmentOf, mem_percentEncode_iff (by decide) (by decide)]
  exact and_iff_left (by decide)

/-! ### The path -/

/-- The characters of an id that become part of the path. -/
def pathPart (id : String) : List Char :=
  (tidied id.toList).takeWhile fun c => !(c == '?' || c == '#')

/-- What the path takes of an id is a front part of it, without margins and line breaks. -/
theorem pathPart_sublist (id : String) : (pathPart id).Sublist id.toList :=
  (List.takeWhile_sublist _).trans (tidied_sublist _)

/-- The path takes all of an id exactly if nothing in it begins a query or a fragment, nothing in it
is dropped, and no blank is at its end. -/
theorem pathPart_eq_iff {id : String} :
    pathPart id = id.toList ↔
      (∀ c ∈ id.toList, c ∉ ['?', '#', '\t', '\n', '\r']) ∧
        ∀ c, id.toList.getLast? = some c → isMargin c = false := by
  have hgoes {c : Char} : (!(c == '?' || c == '#')) = true ↔ c ≠ '?' ∧ c ≠ '#' := by
    rw [Bool.not_eq_true', Bool.or_eq_false_iff, beq_eq_false_iff_ne, beq_eq_false_iff_ne]
  have hchars (c : Char) : c ∉ ['?', '#', '\t', '\n', '\r'] ↔
      (c ≠ '?' ∧ c ≠ '#') ∧ c ≠ '\t' ∧ c ≠ '\n' ∧ c ≠ '\r' := by
    simp only [List.mem_cons, List.not_mem_nil, or_false, not_or, and_assoc, ne_eq]
  constructor
  · intro h
    have htidy : tidied id.toList = id.toList := by
      have htaken : (pathPart id).Sublist (tidied id.toList) := List.takeWhile_sublist _
      rw [h] at htaken
      exact (tidied_sublist _).eq_of_length_le htaken.length_le
    rw [pathPart, htidy, List.takeWhile_eq_self_iff] at h
    obtain ⟨hbreaks, hlast⟩ := tidied_eq_self_iff.1 htidy
    exact ⟨fun c hc => (hchars c).2 ⟨hgoes.1 (h c hc), hbreaks c hc⟩, hlast⟩
  · rintro ⟨h, hlast⟩
    have htidy : tidied id.toList = id.toList :=
      tidied_eq_self_iff.2 ⟨fun c hc => ((hchars c).1 (h c hc)).2, hlast⟩
    rw [pathPart, htidy, List.takeWhile_eq_self_iff]
    exact fun c hc => hgoes.2 ((hchars c).1 (h c hc)).1

/-- An id that is one segment is resolved against the folder of all workflows. -/
theorem rootedPath_workflowsPath {cs : List Char} (hslash : '/' ∉ cs) (hback : '\\' ∉ cs) :
    rootedPath true (workflowsPath ++ cs) =
      if isDoubleDot (percentEncode keepPath cs) then "/api/v1/".toList
      else if isSingleDot (percentEncode keepPath cs) then workflowsPath
      else workflowsPath ++ percentEncode keepPath cs := by
  have hsame : cs.map (fun c => if c == '\\' then '/' else c) = cs := by
    have hchars : ∀ c ∈ cs, (if c == '\\' then '/' else c) = c := by
      rintro c hc
      refine if_neg fun heq => hback ?_
      rwa [← beq_iff_eq.1 heq]
    rw [List.map_congr_left hchars, List.map_id']
  change rootedPath true ('/' :: ("api/v1/workflows".toList ++ '/' :: cs)) = _
  rw [rootedPath_slash, List.map_append, List.map_cons, hsame]
  change pathText (resolveFrom []
    ((Text.cut '/' ("api/v1/workflows".toList ++ '/' :: cs)).map _)) = _
  rw [Text.cut_append_separator, Text.cut_of_notMem hslash, List.map_append]
  change pathText (resolveFrom (["workflows", "v1", "api"].map String.toList)
    [percentEncode keepPath cs]) = _
  rw [resolveFrom]
  split
  · rfl
  · split
    · rfl
    · rw [pathText, List.reverse_cons, List.flatMap_append, List.flatMap_singleton]
      rfl

theorem IsPlain.pathPart_eq {id : String} (h : IsPlain id) : pathPart id = id.toList := by
  refine pathPart_eq_iff.2 ⟨fun c hc hmem => h.chars c hc ?_, h.last⟩
  exact List.mem_cons_of_mem _ (List.mem_cons_of_mem _ hmem)

/-- A plain id leads to its workflow. -/
theorem IsPlain.rootedPath_eq {id : String} (h : IsPlain id) :
    rootedPath true (workflowsPath ++ pathPart id) = workflowsPath ++ segmentOf id := by
  have hslash : '/' ∉ id.toList := fun hmem => h.chars _ hmem (by decide)
  have hback : '\\' ∉ id.toList := fun hmem => h.chars _ hmem (by decide)
  have hnoDots : ¬ isDoubleDot (percentEncode keepPath id.toList) = true :=
    Bool.eq_false_iff.1 h.noDots
  have hnoDot : ¬ isSingleDot (percentEncode keepPath id.toList) = true :=
    Bool.eq_false_iff.1 h.noDot
  rw [h.pathPart_eq, rootedPath_workflowsPath hslash hback, if_neg hnoDots, if_neg hnoDot]
  rfl

/-- An id that leads to its workflow has nothing that is read as a slash. -/
theorem backslash_notMem_of_rootedPath {id : String}
    (h : rootedPath true (workflowsPath ++ pathPart id) = workflowsPath ++ segmentOf id) :
    '\\' ∉ id.toList := by
  intro hmem
  refine backslash_notMem_rootedPath ("api/v1/workflows/".toList ++ pathPart id) ?_
  change '\\' ∈ rootedPath true (workflowsPath ++ pathPart id)
  rw [h]
  exact List.mem_append_right _ (backslash_mem_segmentOf_iff.2 hmem)

/-- An id that leads to its workflow is plain. -/
theorem isPlain_of_rootedPath {id : String}
    (h : rootedPath true (workflowsPath ++ pathPart id) = workflowsPath ++ segmentOf id)
    (hne : segmentOf id ≠ []) (hslash : '/' ∉ id.toList) : IsPlain id := by
  have hback := backslash_notMem_of_rootedPath h
  have hsublist := pathPart_sublist id
  rw [rootedPath_workflowsPath (fun hmem => hslash (hsublist.subset hmem))
    (fun hmem => hback (hsublist.subset hmem))] at h
  split at h
  · -- two dots lead above all workflows
    have hlength := congrArg List.length h
    rw [List.length_append, show workflowsPath.length = 18 from rfl] at hlength
    change 8 = _ at hlength
    omega
  · next hdots =>
    split at h
    · -- a dot leads to all of them
      exact absurd (List.self_eq_append_right.1 h) hne
    · next hdot =>
      -- nothing was dropped, since the rest would be too short
      have hsegment : percentEncode keepPath (pathPart id) = segmentOf id :=
        List.append_cancel_left h
      have hpart : pathPart id = id.toList := by
        refine (eq_or_length_percentEncode_lt keepPath hsublist).resolve_right ?_
        rw [hsegment]
        exact Nat.lt_irrefl _
      obtain ⟨hchars, hlast⟩ := pathPart_eq_iff.1 hpart
      rw [hsegment] at hdots hdot
      refine ⟨?_, ?_, hlast, Bool.eq_false_iff.2 hdot, Bool.eq_false_iff.2 hdots⟩
      · rintro rfl
        exact hne rfl
      · intro c hc hmem
        rw [delimiters, List.mem_cons, List.mem_cons] at hmem
        rcases hmem with rfl | rfl | hmem
        · exact hslash hc
        · exact hback hc
        · exact hchars c hc hmem

/-! ### The URL -/

variable {credentials : Option (String × Option String)} {authority : String}

/-- The URL of a workflow, as it is read. -/
def workflowUrl (credentials : Option (String × Option String)) (authority id : String) : Url :=
  withPath "http" credentials (some authority) (rootedPath true) (workflowsPath ++ tidied id.toList)

theorem spanUntil_workflowsPath (id : String) :
    spanUntil (fun c => c == '?' || c == '#') (workflowsPath ++ tidied id.toList) =
      (workflowsPath ++ pathPart id,
        (tidied id.toList).dropWhile fun c => !(c == '?' || c == '#')) := by
  have hgoes : ∀ c ∈ workflowsPath, (!(c == '?' || c == '#')) = true :=
    List.all_eq_true.1 (by decide +kernel)
  rw [spanUntil, List.takeWhile_append_of_pos hgoes, List.dropWhile_append_of_pos hgoes, pathPart]

/-- The path of the request is the path of all workflows with the id behind it, as far as the id
goes into a path, with its dots resolved. -/
theorem path_workflowUrl (id : String) :
    (workflowUrl credentials authority id).path =
      String.ofList (rootedPath true (workflowsPath ++ pathPart id)) := by
  rw [workflowUrl, withPath, spanUntil_workflowsPath]

/-- An id that goes into the path as a whole leaves nothing for a query. -/
theorem query_workflowUrl {id : String} (h : pathPart id = id.toList) :
    (workflowUrl credentials authority id).query = none := by
  obtain ⟨hchars, hlast⟩ := pathPart_eq_iff.1 h
  have hrest : (tidied id.toList).dropWhile (fun c => !(c == '?' || c == '#')) = [] := by
    refine List.dropWhile_eq_nil_iff.2 fun c hc => ?_
    have hchar := hchars c ((tidied_sublist _).subset hc)
    rw [List.mem_cons, List.mem_cons, not_or, not_or] at hchar
    rw [Bool.not_eq_true', Bool.or_eq_false_iff, beq_eq_false_iff_ne, beq_eq_false_iff_ne]
    exact ⟨hchar.1, hchar.2.1⟩
  rw [workflowUrl, withPath, spanUntil_workflowsPath, hrest]
  rfl

/-- What is asked for is the path, or has a question mark in it. -/
theorem target_cases (url : Url) :
    (url.withPairs []).target = url.path ∨ '?' ∈ (url.withPairs []).target.toList := by
  by_cases hquery : url.query.getD "" == ""
  · left
    rw [Url.withPairs, List.isEmpty_nil, if_pos rfl, if_pos hquery]
    rfl
  · right
    rw [Url.withPairs, List.isEmpty_nil, if_pos rfl, if_neg hquery]
    change '?' ∈ (url.path ++ "?" ++ url.query.getD "").toList
    rw [String.toList_append, String.toList_append]
    exact List.mem_append_left _ (List.mem_append_right _ List.mem_cons_self)

theorem target_of_query_none {url : Url} (h : url.query = none) :
    (url.withPairs []).target = url.path := by
  rw [Url.withPairs, h]
  rfl

/-- A workflow is asked for by its id exactly if the id is plain. -/
theorem target_workflowUrl_iff (id : String) :
    ((workflowUrl credentials authority id).withPairs []).target =
          String.ofList (workflowsPath ++ segmentOf id) ∧
        segmentOf id ≠ [] ∧ '/' ∉ segmentOf id ↔
      IsPlain id := by
  constructor
  · rintro ⟨htarget, hne, hslash⟩
    refine isPlain_of_rootedPath ?_ hne (mt slash_mem_segmentOf_iff.2 hslash)
    rcases target_cases (workflowUrl credentials authority id) with hcase | hcase
    · rw [hcase, path_workflowUrl] at htarget
      exact String.ofList_injective htarget
    · rw [htarget, String.toList_ofList, List.mem_append, segmentOf,
        mem_percentEncode_iff (by decide) (by decide)] at hcase
      rcases hcase with hmem | ⟨-, hkeep⟩
      · exact absurd hmem (by decide)
      · exact absurd hkeep (by decide)
  · intro h
    refine ⟨?_, segmentOf_ne_nil h.nonempty, fun hmem => ?_⟩
    · rw [target_of_query_none (query_workflowUrl h.pathPart_eq), path_workflowUrl,
        h.rootedPath_eq]
    · exact h.chars _ (slash_mem_segmentOf_iff.1 hmem) (by decide)

/-! ### The request -/

/-- A text that is the host of a web address: with `http://` in front, it is an address that can be
asked, and all of it is the host. -/
structure IsHost (host : String) : Prop where
  /-- it goes on to its end -/
  chars : ∀ c ∈ host.toList, isMargin c = false ∧ endsAuthority true c = false
  /-- it can be asked -/
  asked : (prepareGet ("http://" ++ host) [] none none).isOk = true

namespace IsHost

variable {host : String}

theorem ne_nil (h : IsHost host) : host.toList ≠ [] := by
  intro hnil
  have hasked := h.asked
  rw [String.toList_eq_nil_iff.1 hnil] at hasked
  exact absurd hasked (by decide +kernel)

/-- An address at the host is read part by part. -/
theorem parse?_eq (h : IsHost host) (text : String) (front cs : List Char)
    (htext : text.toList = "http://".toList ++ host.toList ++ front ++ cs)
    (hfront : ∀ c ∈ front, isMargin c = false)
    (hends : (front ++ tidied cs).head?.all (endsAuthority true) = true) :
    parse? text = (readAuthority? "http" host.toList).map fun found =>
      withPath "http" found.1 (some found.2) (rootedPath true) (front ++ tidied cs) := by
  have hmargin : ∀ c ∈ "http://".toList ++ host.toList ++ front, isMargin c = false :=
    List.forall_mem_append.2
      ⟨List.forall_mem_append.2 ⟨by simp [isMargin], fun c hc => (h.chars c hc).1⟩, hfront⟩
  refine parse?_of_clean ?_ h.ne_nil (fun c hc => (h.chars c hc).2) hends
  rw [htext, clean_append (by simp) hmargin, List.append_assoc]

/-- The host is read as an authority that can be asked. -/
theorem exists_authority (h : IsHost host) :
    ∃ credentials authority, readAuthority? "http" host.toList = some (credentials, authority) ∧
      authority ≠ "" ∧ authority.toList.any isOddHostChar = false := by
  obtain ⟨request, hrequest⟩ := Json.isOk_iff.1 h.asked
  obtain ⟨url, hurl, hhost, hask, -⟩ := prepareGet_eq_ok_iff.1 hrequest
  rw [h.parse?_eq ("http://" ++ host) [] []
    (by rw [String.toList_append, List.append_nil, List.append_nil]) (List.forall_mem_nil _) rfl,
    Option.map_eq_some_iff] at hurl
  obtain ⟨found, hfound, rfl⟩ := hurl
  rw [canAsk, Bool.and_eq_true, Bool.not_eq_true'] at hask
  exact ⟨found.1, found.2, hfound, bne_iff_ne.1 hhost, hask.2⟩

end IsHost

/-- What is asked for when a workflow is asked for: the targets of all requests. -/
def Client.fetchTargets (client : Client) (id : String) (server : Dialogue.Server) : List String :=
  ((client.fetch id).transcript server).map fun exchange => exchange.1.url.target

/-- Whatever the id, one request is sent. -/
theorem exists_fetchTargets_eq {host : String} (hhost : IsHost host) {client : Client}
    {slashes : Nat} (hbase : client.settings.baseUrl =
      "http://" ++ host ++ String.ofList (List.replicate slashes '/')) :
    ∃ credentials authority, ∀ id server, client.fetchTargets id server =
      [((workflowUrl credentials authority id).withPairs []).target] := by
  obtain ⟨credentials, authority, hauthority, hne, hodd⟩ := hhost.exists_authority
  refine ⟨credentials, authority, fun id server => ?_⟩
  have hbaseUrl : withoutFinalSlashes client.settings.baseUrl = "http://" ++ host := by
    rw [hbase]
    refine withoutFinalSlashes_append (fun c hc => ?_) slashes
    rw [String.toList_append, List.getLast?_append_of_ne_nil _ hhost.ne_nil] at hc
    have hstays := (hhost.chars c (List.mem_of_getLast? hc)).2
    rintro rfl
    exact absurd hstays (by decide)
  have hmargin : ∀ c ∈ workflowsPath, (!isMargin c) = true := List.all_eq_true.1 (by decide +kernel)
  have hparse := hhost.parse?_eq (client.settings.apiUrl ++ ("/workflows/" ++ id)) workflowsPath
    id.toList (by
      rw [Settings.apiUrl, resourceUrl, hbaseUrl]
      simp only [String.toList_append, List.append_assoc]
      rfl) (fun c hc => by simpa using hmargin c hc) rfl
  have hhas : (workflowUrl credentials authority id).hasHost = true := bne_iff_ne.2 hne
  have hask : canAsk (workflowUrl credentials authority id) = true := by
    rw [canAsk, Bool.and_eq_true, Bool.not_eq_true']
    exact ⟨rfl, hodd⟩
  rw [hauthority, Option.map_some] at hparse
  change parse? _ = some (workflowUrl credentials authority id) at hparse
  rw [Client.fetchTargets, Client.fetch, Client.get,
    prepareGet_eq_ok_iff.2 ⟨_, hparse, hhas, hask, rfl⟩]
  rfl

/-- **A plain id addresses its workflow.** Take a store at a web address that is a host, with any
number of slashes behind it. For every id one request is sent, and it asks for the one segment that
is the id behind the path of all workflows, and for nothing else, exactly if the id is plain. Plain
ids that differ have different targets, if none of them has an encoded byte spelled out in it. -/
theorem fetch_addresses_own_workflow_iff_plain (host : String) (slashes : Nat) (client : Client)
    (hhost : IsHost host)
    (hbase : client.settings.baseUrl =
      "http://" ++ host ++ String.ofList (List.replicate slashes '/')) :
    (∀ id server, ∃ target, client.fetchTargets id server = [target] ∧
      (target = String.ofList (workflowsPath ++ segmentOf id) ∧
          segmentOf id ≠ [] ∧ '/' ∉ segmentOf id ↔ IsPlain id)) ∧
    ∀ a b, a ≠ b → IsPlain a → IsPlain b → isUnescaped a.toList = true →
      isUnescaped b.toList = true → ∀ server other,
        client.fetchTargets a server ≠ client.fetchTargets b other := by
  obtain ⟨credentials, authority, htargets⟩ := exists_fetchTargets_eq hhost hbase
  refine ⟨fun id server => ⟨_, htargets id server, target_workflowUrl_iff id⟩, ?_⟩
  intro a b hne ha hb hrawA hrawB server other hsame
  obtain ⟨htargetA, -⟩ := (target_workflowUrl_iff a).2 ha
  obtain ⟨htargetB, -⟩ := (target_workflowUrl_iff b).2 hb
  rw [htargets, htargets, htargetA, htargetB] at hsame
  have hsegments : segmentOf a = segmentOf b :=
    List.append_cancel_left (String.ofList_injective (List.singleton_inj.1 hsame))
  exact hne (eq_of_percentEncode_eq hrawA hrawB hsegments)

theorem isHost_localhost : IsHost "localhost:5678" :=
  ⟨by simp [isMargin, endsAuthority], by decide +kernel⟩

/-- A store on this machine, with slashes behind its address. -/
def localStore : Client := ⟨{ baseUrl := "http://localhost:5678//" }⟩

theorem baseUrl_localStore : localStore.settings.baseUrl =
    "http://" ++ "localhost:5678" ++ String.ofList (List.replicate 2 '/') := rfl

/-- A server that is there and says nothing. -/
def silentServer : Dialogue.Server := .under "localhost:5678" []

/-- A blank within an id and a letter outside ASCII are encoded, and the ids are kept apart. -/
theorem localStore_addresses_own :
    localStore.fetchTargets "mein Ablauf" silentServer =
        [String.ofList (workflowsPath ++ segmentOf "mein Ablauf")] ∧
      localStore.fetchTargets "mein Ablauf" silentServer ≠
        localStore.fetchTargets "Abläufe" silentServer := by
  have hflow : IsPlain "mein Ablauf" :=
    ⟨by decide, by simp [delimiters], by simp [isMargin], by decide, by decide⟩
  have hflows : IsPlain "Abläufe" :=
    ⟨by decide, by simp [delimiters], by simp [isMargin], by decide, by decide⟩
  obtain ⟨howned, hdiffer⟩ :=
    fetch_addresses_own_workflow_iff_plain "localhost:5678" 2 localStore isHost_localhost
      baseUrl_localStore
  obtain ⟨target, htarget, hiff⟩ := howned "mein Ablauf" silentServer
  rw [(hiff.2 hflow).1] at htarget
  exact ⟨htarget, hdiffer _ _ (by decide) hflow hflows (by decide) (by decide) _ _⟩

/-- Other ids stray: to the same workflow, to another resource, or with a query. -/
theorem localStore_strays :
    localStore.fetchTargets "7#copy" silentServer = localStore.fetchTargets "7" silentServer ∧
      localStore.fetchTargets "7/runs" silentServer = ["/api/v1/workflows/7/runs"] ∧
      localStore.fetchTargets "../users" silentServer = ["/api/v1/users"] ∧
      localStore.fetchTargets "7?full" silentServer = ["/api/v1/workflows/7?full"] := by
  obtain ⟨credentials, authority, htargets⟩ :=
    exists_fetchTargets_eq isHost_localhost baseUrl_localStore
  rw [htargets, htargets, htargets, htargets, htargets]
  exact ⟨rfl, rfl, rfl, rfl⟩

end Store

end FlowScript
