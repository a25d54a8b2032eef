import FlowScript.Proofs.Http.Url
import FlowScript.Proofs.Json.Record
import Mathlib.Data.List.Basic

/-!
# Addresses below a base

A base is a text below which resources have addresses: with a slash behind it, it can be asked
(`IsBase`). Scheme and host end at the slash at the latest, so they are the same whatever path is
put there (`IsBase.exists_parse?`).

Behind a base in which neither a query nor a fragment begins there is none either
(`query_of_parse?`).
-/

namespace FlowScript

namespace Http

namespace Url

/-! ### Cleaning -/

/-- What cleaning leaves of the beginning of a text. -/
def tidiedFront (cs : List Char) : List Char :=
  (cs.dropWhile isMargin).filter fun c => c != '\t' && c != '\n' && c != '\r'

/-- Cleaning leaves alone an end that has neither blanks nor controls. -/
theorem clean_append_end {more : List Char} (hne : more ≠ [])
    (hmore : ∀ c ∈ more, isMargin c = false) (cs : List Char) :
    clean (cs ++ more) = tidiedFront cs ++ more := by
  have hfirst : (cs ++ more).dropWhile isMargin = cs.dropWhile isMargin ++ more := by
    obtain ⟨c, rest, rfl⟩ := List.exists_cons_of_ne_nil hne
    exact Text.dropWhile_append_stop (hmore c List.mem_cons_self) cs rest
  have hlast : (cs.dropWhile isMargin ++ more).reverse.dropWhile isMargin =
      (cs.dropWhile isMargin ++ more).reverse := by
    refine dropWhile_reverse_of_last fun c hc => ?_
    rw [List.getLast?_append_of_ne_nil _ hne] at hc
    exact hmore c (List.mem_of_getLast? hc)
  rw [clean, hfirst, hlast, List.reverse_reverse, List.filter_append, filter_breaks hmore,
    tidiedFront]

/-- The scheme is read before the first slash. -/
theorem readScheme?_append_slash (cs rest : List Char) :
    readScheme? (cs ++ '/' :: rest) =
      (readScheme? cs).map fun found => (found.1, found.2 ++ '/' :: rest) := by
  cases cs with
  | nil => rfl
  | cons c cs =>
    have hslash : isSchemeChar '/' = false := by decide
    have htake := Text.takeWhile_append_stop hslash (c :: cs) rest
    have hdrop := Text.dropWhile_append_stop hslash (c :: cs) rest
    rw [List.cons_append] at htake hdrop ⊢
    rw [readScheme?, readScheme?, htake, hdrop]
    split
    · cases (c :: cs).dropWhile isSchemeChar with
      | nil => rfl
      | cons d ds =>
        by_cases hd : d = ':'
        · rw [hd]
          rfl
        · rw [List.cons_append]
          split
          · next heq => exact absurd (List.cons.inj heq).1 hd
          · split
            · next heq => exact absurd (List.cons.inj heq).1 hd
            · rfl
    · rfl

/-! ### Web addresses -/

/-- What can be asked has one of the two schemes of the web. -/
theorem isWeb_of_canAsk {url : Url} (h : canAsk url = true) : IsWeb url.scheme := by
  rw [canAsk, Bool.and_eq_true, Bool.or_eq_true, beq_iff_eq, beq_iff_eq] at h
  exact h.1

theorem behindSlashes_append (cs more : List Char) :
    behindSlashes (cs ++ more) =
      if (behindSlashes cs).isEmpty then behindSlashes more else behindSlashes cs ++ more :=
  List.dropWhile_append

/-- What is read as a URL begins with the scheme that it is read with. -/
theorem readScheme?_of_parse? {text : String} {url : Url} (h : parse? text = some url) :
    ∃ rest, readScheme? (clean text.toList) = some (url.scheme, rest) := by
  rw [parse?] at h
  obtain ⟨⟨scheme, rest⟩, hscheme, h⟩ := Option.bind_eq_some_iff.1 h
  refine ⟨rest, hscheme.trans ?_⟩
  dsimp only at h
  split at h
  · obtain ⟨found, -, h⟩ := Option.bind_eq_some_iff.1 h
    rw [← Option.some.inj h]
    rfl
  · split at h
    · rw [← Option.some.inj h]
      rfl
    · split at h <;>
      · rw [← Option.some.inj h]
        rfl

/-! ### Queries -/

/-- Cleaning leaves characters out and adds none. -/
theorem clean_subset (cs : List Char) : clean cs ⊆ cs := by
  intro c hc
  have htrimmed := (List.dropWhile_sublist isMargin).subset
    (List.mem_reverse.1 (List.mem_filter.1 hc).1)
  exact (List.dropWhile_sublist isMargin).subset (List.mem_reverse.1 htrimmed)

theorem readScheme?_subset {cs rest : List Char} {scheme : String}
    (h : readScheme? cs = some (scheme, rest)) : rest ⊆ cs := by
  cases cs with
  | nil => cases h
  | cons c cs =>
    rw [readScheme?] at h
    split at h
    · split at h
      · next hdrop =>
        obtain ⟨-, rfl⟩ := Prod.mk.inj (Option.some.inj h)
        have hsublist := List.dropWhile_sublist isSchemeChar (l := c :: cs)
        rw [hdrop] at hsublist
        exact (List.sublist_of_cons_sublist hsublist).subset
      · cases h
    · cases h

/-- Where neither a query nor a fragment begins, all of it is path. -/
theorem withPath_of_plain {scheme : String} {credentials : Option (String × Option String)}
    {authority : Option String} {path : List Char → List Char} {cs : List Char}
    (h : ∀ c ∈ cs, c ≠ '?' ∧ c ≠ '#') :
    withPath scheme credentials authority path cs =
      { scheme, credentials, authority, path := String.ofList (path cs) } := by
  have hspan : spanUntil (fun c => c == '?' || c == '#') cs = (cs, []) := by
    have hpart : ∀ c ∈ cs, (c == '?' || c == '#') = false := by
      intro c hc
      rw [beq_eq_false_iff_ne.2 (h c hc).1, beq_eq_false_iff_ne.2 (h c hc).2, Bool.or_false]
    have hwhole := @spanUntil_append _ cs [] hpart rfl
    rwa [List.append_nil] at hwhole
  rw [withPath, hspan]
  rfl

/-- A web address in whose text neither a query nor a fragment begins has none. -/
theorem query_of_parse? {text : String} {url : Url} (h : parse? text = some url)
    (hweb : IsWeb url.scheme) (hplain : ∀ c ∈ text.toList, c ≠ '?' ∧ c ≠ '#') :
    url.query = none ∧ '?' ∉ url.path.toList := by
  obtain ⟨rest, hscheme⟩ := readScheme?_of_parse? h
  rw [parse?_of_web hweb hscheme] at h
  obtain ⟨found, -, h⟩ := Option.map_eq_some_iff.1 h
  have hrest : ∀ c ∈ (spanUntil (endsAuthority true) (behindSlashes rest)).2,
      c ≠ '?' ∧ c ≠ '#' := by
    intro c hc
    have hbehind := (List.dropWhile_sublist _).subset ((List.dropWhile_sublist _).subset hc)
    exact hplain c (clean_subset _ (readScheme?_subset hscheme hbehind))
  rw [withPath_of_plain hrest] at h
  rw [← h]
  refine ⟨rfl, fun hmem => ?_⟩
  rw [String.toList_ofList] at hmem
  have hkeep := (mem_of_mem_rootedPath (by decide) (by decide) (by decide) hmem).2
  exact absurd hkeep (by decide)

/-! ### Behind a slash -/

/-- Scheme and host are read before the slash, and what follows is path. -/
theorem parse?_append_slash {text scheme : String} {front more rest : List Char}
    (hweb : IsWeb scheme) (htext : text.toList = front ++ '/' :: more)
    (hmore : ∀ c ∈ more, isMargin c = false)
    (hscheme : readScheme? (tidiedFront front) = some (scheme, rest))
    (hne : behindSlashes rest ≠ []) :
    parse? text =
      (readAuthority? scheme (spanUntil (endsAuthority true) (behindSlashes rest)).1).map
        fun found => withPath scheme found.1 (some found.2) (rootedPath true)
          ((spanUntil (endsAuthority true) (behindSlashes rest)).2 ++ '/' :: more) := by
  have hread : readScheme? (clean text.toList) = some (scheme, rest ++ '/' :: more) := by
    rw [htext, clean_append_end (List.cons_ne_nil _ _)
      (List.forall_mem_cons.2 ⟨by decide, hmore⟩), readScheme?_append_slash, hscheme]
    rfl
  have hbehind : behindSlashes (rest ++ '/' :: more) = behindSlashes rest ++ '/' :: more := by
    rw [behindSlashes_append, if_neg (mt List.isEmpty_iff.1 hne)]
  have hstop : (!endsAuthority true '/') = false := by decide
  rw [parse?_of_web hweb hread, hbehind, spanUntil, Text.takeWhile_append_stop hstop,
    Text.dropWhile_append_stop hstop, spanUntil]

/-- Behind the slashes of a web address there is a host. -/
theorem behindSlashes_ne_nil {text : String} {url : Url} {rest : List Char}
    (h : parse? text = some url) (hweb : IsWeb url.scheme)
    (hscheme : readScheme? (clean text.toList) = some (url.scheme, rest)) :
    behindSlashes rest ≠ [] := by
  intro hnil
  rw [parse?_of_web hweb hscheme, hnil] at h
  rcases hweb with hhttp | hhttps
  · rw [hhttp] at h
    cases h
  · rw [hhttps] at h
    cases h

end Url

/-! ### Requests -/

open Url

section WithPairs

variable (url : Url) (pairs : List (String × String))

theorem scheme_withPairs : (url.withPairs pairs).scheme = url.scheme := by
  unfold Url.withPairs
  split <;> rfl

theorem authority_withPairs : (url.withPairs pairs).authority = url.authority := by
  unfold Url.withPairs
  split <;> rfl

/-- Parameters change the query and leave the path as it is, so which resource is asked does not
depend on them. -/
theorem path_withPairs : (url.withPairs pairs).path = url.path := by
  unfold Url.withPairs
  split <;> rfl

/-- Nor does it depend on them whether the URL can be asked. -/
theorem canAsk_withPairs : canAsk (url.withPairs pairs) = canAsk url := by
  rw [canAsk, canAsk, scheme_withPairs, authority_withPairs]

end WithPairs

/-- What a prepared request holds, and what it takes to prepare it. -/
theorem prepareGet_eq_ok_iff {text : String} {pairs : List (String × String)}
    {apiKey : Option String} {patience : Option Nat} {request : Request} :
    prepareGet text pairs apiKey patience = .ok request ↔
      ∃ url, parse? text = some url ∧ url.hasHost = true ∧ canAsk url = true ∧
        request = { method := .get, url := url.withPairs pairs, apiKey,
                    authorization := url.credentials.map basicAuthorization, patience } := by
  rw [prepareGet, prepareUrl]
  constructor
  · intro h
    obtain ⟨url, hurl, h⟩ := Json.bind_eq_ok h
    rw [checkedRequest] at h
    split at hurl
    · cases hurl
    · next hparse =>
      split at hurl
      · next hhost =>
        obtain rfl := Except.ok.inj hurl
        split at h
        · next hask =>
          exact ⟨_, hparse, hhost, (canAsk_withPairs _ pairs).symm.trans hask,
            (Except.ok.inj h).symm⟩
        · cases h
      · cases hurl
  · rintro ⟨url, hparse, hhost, hask, rfl⟩
    rw [hparse]
    dsimp only
    rw [if_pos hhost, Json.ok_bind, checkedRequest,
      if_pos ((canAsk_withPairs url pairs).trans hask)]

/-! ### Bases -/

/-- A text below which resources have addresses: with a slash behind it, it can be asked. -/
def IsBase (base : String) : Prop := (prepareGet (base ++ "/") [] none none).isOk = true

instance : DecidablePred IsBase := fun _ => inferInstanceAs (Decidable (_ = true))

/-- The slashes at the end of a base are all that is taken off it. -/
theorem exists_eq_append_slashes (base : String) :
    ∃ n, base.toList = (withoutFinalSlashes base).toList ++ List.replicate n '/' := by
  refine ⟨(base.toList.reverse.takeWhile (· == '/')).length, ?_⟩
  have hslashes : base.toList.reverse.takeWhile (· == '/') =
      List.replicate (base.toList.reverse.takeWhile (· == '/')).length '/' :=
    List.eq_replicate_of_mem fun c hc => beq_iff_eq.1 (List.mem_takeWhile_imp (p := (· == '/')) hc)
  have hsplit := congrArg List.reverse
    (List.takeWhile_append_dropWhile (p := (· == '/')) (l := base.toList.reverse))
  rw [List.reverse_append, List.reverse_reverse, hslashes, List.reverse_replicate] at hsplit
  rw [withoutFinalSlashes, String.toList_ofList, hsplit]

/-- The base with a slash behind it is what is left without slashes, and then slashes. -/
theorem toList_append_slash (base : String) :
    ∃ slashes, (∀ c ∈ slashes, c = '/') ∧
      (base ++ "/").toList = (withoutFinalSlashes base).toList ++ '/' :: slashes := by
  obtain ⟨n, hbase⟩ := exists_eq_append_slashes base
  refine ⟨List.replicate n '/', fun c hc => List.eq_of_mem_replicate hc, ?_⟩
  rw [String.toList_append, hbase, List.append_assoc, ← List.replicate_succ]
  exact congrArg _ List.replicate_succ'.symm

/-- A base has a scheme and a host, and with these every address can be asked. -/
theorem IsBase.exists_host {base : String} (h : IsBase base) :
    ∃ scheme rest found, IsWeb scheme ∧
      readScheme? (tidiedFront (withoutFinalSlashes base).toList) = some (scheme, rest) ∧
      behindSlashes rest ≠ [] ∧
      readAuthority? scheme (spanUntil (endsAuthority true) (behindSlashes rest)).1 =
        some found ∧
      ∀ url : Url, url.scheme = scheme → url.authority = some found.2 →
        url.hasHost = true ∧ canAsk url = true := by
  obtain ⟨slashes, hslashes, htext⟩ := toList_append_slash base
  obtain ⟨request, hrequest⟩ := Json.isOk_iff.1 h
  obtain ⟨url, hparse, hhost, hask, -⟩ := prepareGet_eq_ok_iff.1 hrequest
  have hweb := isWeb_of_canAsk hask
  have hmargin : ∀ c ∈ slashes, isMargin c = false := by
    intro c hc
    rw [hslashes c hc]
    decide
  obtain ⟨behind, hscheme⟩ := readScheme?_of_parse? hparse
  have hbehind := behindSlashes_ne_nil hparse hweb hscheme
  rw [htext, clean_append_end (List.cons_ne_nil _ _)
    (List.forall_mem_cons.2 ⟨by decide, hmargin⟩), readScheme?_append_slash] at hscheme
  obtain ⟨⟨scheme, rest⟩, hfront, hfound⟩ := Option.map_eq_some_iff.1 hscheme
  obtain ⟨rfl, rfl⟩ : scheme = url.scheme ∧ rest ++ '/' :: slashes = behind := Prod.mk.inj hfound
  -- the host is not taken from what is put behind the base
  have hne : behindSlashes rest ≠ [] := by
    intro hnil
    refine hbehind ?_
    rw [behindSlashes_append, if_pos (List.isEmpty_iff.2 hnil), behindSlashes,
      List.dropWhile_eq_nil_iff]
    refine List.forall_mem_cons.2 ⟨by decide, fun c hc => ?_⟩
    rw [hslashes c hc]
    decide
  rw [parse?_append_slash hweb htext hmargin hfront hne] at hparse
  obtain ⟨found, hfound, hurl⟩ := Option.map_eq_some_iff.1 hparse
  have hauthority : url.authority = some found.2 := by
    rw [← hurl]
    rfl
  refine ⟨url.scheme, rest, found, hweb, hfront, hne, hfound, fun other hother hsame => ?_⟩
  rw [hasHost, canAsk, hother, hsame, ← hauthority]
  exact ⟨hhost, hask⟩

/-- Below a base, every path without blanks and controls has an address that can be asked. -/
theorem IsBase.exists_parse? {base : String} (h : IsBase base) {path : List Char}
    (hpath : ∀ c ∈ path, isMargin c = false) :
    ∃ url, parse? (withoutFinalSlashes base ++ String.ofList ('/' :: path)) = some url ∧
      url.hasHost = true ∧ canAsk url = true := by
  obtain ⟨scheme, rest, found, hweb, hfront, hne, hfound, hasked⟩ := h.exists_host
  have htext : (withoutFinalSlashes base ++ String.ofList ('/' :: path)).toList =
      (withoutFinalSlashes base).toList ++ '/' :: path := by
    rw [String.toList_append, String.toList_ofList]
  rw [parse?_append_slash hweb htext hpath hfront hne, hfound]
  exact ⟨_, rfl, hasked _ rfl rfl⟩

end Http

end FlowScript
