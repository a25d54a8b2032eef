import FlowScript.Http.Message
import FlowScript.Proofs.Http.Percent
import FlowScript.Proofs.Text.Lines
import Mathlib.Data.List.TakeWhile

/-!
# Reading web addresses

What becomes of `http://`, a host and more behind it when it is read as a URL: the end is tidied
(`clean_append`), the host is made out (`parse?_of_clean`), and the path is taken apart at its
slashes and put together again without its dots.
-/

namespace FlowScript

namespace Http

namespace Url

/-! ### Cleaning -/

/-- Nothing is dropped at the end of a text whose last character stays. -/
theorem dropWhile_reverse_of_last {p : Char → Bool} {cs : List Char}
    (h : ∀ c, cs.getLast? = some c → p c = false) : cs.reverse.dropWhile p = cs.reverse := by
  cases hreverse : cs.reverse with
  | nil => rfl
  | cons c rest =>
    have hc : cs.getLast? = some c := by rw [← List.head?_reverse, hreverse, List.head?_cons]
    exact List.dropWhile_cons_of_neg (by rw [h c hc]; exact Bool.false_ne_true)

/-- Tabs and line breaks are blanks. -/
theorem filter_breaks {cs : List Char} (h : ∀ c ∈ cs, isMargin c = false) :
    cs.filter (fun c => c != '\t' && c != '\n' && c != '\r') = cs := by
  refine List.filter_eq_self.2 fun c hc => ?_
  have hmargin := h c hc
  refine Bool.and_eq_true_iff.2 ⟨Bool.and_eq_true_iff.2 ⟨?_, ?_⟩, ?_⟩ <;>
  · refine bne_iff_ne.2 ?_
    rintro rfl
    exact absurd hmargin (by decide)

/-- What cleaning leaves of the end of a text. -/
def tidied (cs : List Char) : List Char :=
  (cs.reverse.dropWhile isMargin).reverse.filter fun c => c != '\t' && c != '\n' && c != '\r'

/-- Cleaning leaves alone what has neither blanks nor controls. -/
theorem clean_append {front : List Char} (hne : front ≠ [])
    (hfront : ∀ c ∈ front, isMargin c = false) (cs : List Char) :
    clean (front ++ cs) = front ++ tidied cs := by
  have hfirst : (front ++ cs).dropWhile isMargin = front ++ cs := by
    obtain ⟨c, rest, rfl⟩ := List.exists_cons_of_ne_nil hne
    exact List.dropWhile_cons_of_neg (by rw [hfront c List.mem_cons_self]; decide)
  have hlast : (front ++ cs).reverse.dropWhile isMargin =
      cs.reverse.dropWhile isMargin ++ front.reverse := by
    have hback : front.reverse.dropWhile isMargin = front.reverse :=
      dropWhile_reverse_of_last fun c hc => hfront c (List.mem_of_getLast? hc)
    rw [List.reverse_append, List.dropWhile_append]
    split
    · next hempty => rw [List.isEmpty_iff.1 hempty, hback, List.nil_append]
    · rfl
  rw [clean, hfirst, hlast, List.reverse_append, List.reverse_reverse, List.filter_append,
    filter_breaks hfront, tidied]

/-- Blanks around a text and line breaks in it are left out; the others stay in their order. -/
theorem tidied_sublist (cs : List Char) : (tidied cs).Sublist cs := by
  have hback := (List.dropWhile_sublist isMargin (l := cs.reverse)).reverse
  rw [List.reverse_reverse] at hback
  exact List.filter_sublist.trans hback

/-- What has no blank at its end, and neither tabs nor line breaks, is tidy. -/
theorem tidied_eq_self_iff {cs : List Char} :
    tidied cs = cs ↔
      (∀ c ∈ cs, c ≠ '\t' ∧ c ≠ '\n' ∧ c ≠ '\r') ∧
        ∀ c, cs.getLast? = some c → isMargin c = false := by
  have hkept {c : Char} :
      (c != '\t' && c != '\n' && c != '\r') = true ↔ c ≠ '\t' ∧ c ≠ '\n' ∧ c ≠ '\r' := by
    rw [Bool.and_eq_true, Bool.and_eq_true, bne_iff_ne, bne_iff_ne, bne_iff_ne, and_assoc]
  constructor
  · intro h
    -- both steps of tidying left everything
    have hback : (cs.reverse.dropWhile isMargin).reverse = cs := by
      have hdropped := (List.dropWhile_sublist isMargin (l := cs.reverse)).reverse
      have hfiltered : (tidied cs).Sublist _ := List.filter_sublist
      rw [List.reverse_reverse] at hdropped
      rw [h] at hfiltered
      exact hdropped.eq_of_length_le hfiltered.length_le
    rw [tidied, hback] at h
    refine ⟨fun c hc => hkept.1 (List.filter_eq_self.1 h c hc), fun c hc => ?_⟩
    have hfirst := List.head?_dropWhile_not isMargin cs.reverse
    rw [List.reverse_eq_iff.1 hback, List.head?_reverse, hc] at hfirst
    exact hfirst
  · rintro ⟨hchars, hlast⟩
    have hback : cs.reverse.dropWhile isMargin = cs.reverse := dropWhile_reverse_of_last hlast
    rw [tidied, hback, List.reverse_reverse]
    exact List.filter_eq_self.2 fun c hc => hkept.2 (hchars c hc)

/-- The slashes behind a base do not count. -/
theorem withoutFinalSlashes_append {text : String}
    (h : ∀ c, text.toList.getLast? = some c → c ≠ '/') (n : Nat) :
    withoutFinalSlashes (text ++ String.ofList (List.replicate n '/')) = text := by
  have hslashes : ∀ c ∈ List.replicate n '/', (c == '/') = true :=
    fun c hc => beq_iff_eq.2 (List.eq_of_mem_replicate hc)
  have hback : text.toList.reverse.dropWhile (· == '/') = text.toList.reverse :=
    dropWhile_reverse_of_last fun c hc => beq_eq_false_iff_ne.2 (h c hc)
  rw [withoutFinalSlashes, String.toList_append, String.toList_ofList, List.reverse_append,
    List.reverse_replicate, List.dropWhile_append_of_pos hslashes, hback, List.reverse_reverse,
    String.ofList_toList]

/-! ### Parts -/

/-- A part ends where its stop begins, if nothing in it is a stop. Every part of a URL is cut off
so. -/
theorem spanUntil_append {stop : Char → Bool} {part rest : List Char}
    (hpart : ∀ c ∈ part, stop c = false) (hrest : rest.head?.all stop = true) :
    spanUntil stop (part ++ rest) = (part, rest) := by
  have hgoes : ∀ c ∈ part, (!stop c) = true := fun c hc => by rw [hpart c hc]; rfl
  rw [spanUntil, List.takeWhile_append_of_pos hgoes, List.dropWhile_append_of_pos hgoes]
  cases rest with
  | nil => rw [List.takeWhile_nil, List.dropWhile_nil, List.append_nil]
  | cons c rest =>
    have hstop : ¬ (!stop c) = true := by
      rw [show stop c = true from hrest]
      decide
    rw [List.takeWhile_cons, List.dropWhile_cons, if_neg hstop, if_neg hstop, List.append_nil]

theorem readScheme?_http (rest : List Char) :
    readScheme? ("http:".toList ++ rest) = some ("http", rest) := rfl

/-- The schemes of addresses that can be asked. -/
def IsWeb (scheme : String) : Prop := scheme = "http" ∨ scheme = "https"

/-- The schemes of the web are read by the stricter rules, with a host, and are not those of
files. -/
theorem IsWeb.special {scheme : String} (h : IsWeb scheme) :
    isSpecial scheme = true ∧ (scheme != "file") = true := by
  rcases h with rfl | rfl <;> decide +kernel

/-- What stands behind the slashes of a scheme. -/
def behindSlashes (cs : List Char) : List Char := cs.dropWhile fun c => c == '/' || c == '\\'

/-- A web address is read part by part. -/
theorem parse?_of_web {text scheme : String} {rest : List Char} (hweb : IsWeb scheme)
    (hscheme : readScheme? (clean text.toList) = some (scheme, rest)) :
    parse? text =
      (readAuthority? scheme (spanUntil (endsAuthority true) (behindSlashes rest)).1).map
        fun found => withPath scheme found.1 (some found.2) (rootedPath true)
          (spanUntil (endsAuthority true) (behindSlashes rest)).2 := by
  obtain ⟨hspecial, hfile⟩ := hweb.special
  have hpath : (fun cs : List Char =>
      if (cs.isEmpty && !true) = true then [] else rootedPath true cs) = rootedPath true := by
    funext cs
    rw [Bool.not_true, Bool.and_false, if_neg Bool.false_ne_true]
  rw [parse?, hscheme, Option.bind_eq_bind, Option.bind_some]
  dsimp only
  rw [hspecial, hfile, if_pos (by decide), hpath]
  dsimp only
  rw [behindSlashes]
  cases readAuthority? scheme _ <;> rfl

/-- An address whose host ends before what else it has. -/
theorem parse?_of_clean {text : String} {host more : List Char}
    (hclean : clean text.toList = "http://".toList ++ host ++ more) (hne : host ≠ [])
    (hhost : ∀ c ∈ host, endsAuthority true c = false)
    (hmore : more.head?.all (endsAuthority true) = true) :
    parse? text = (readAuthority? "http" host).map fun found =>
      withPath "http" found.1 (some found.2) (rootedPath true) more := by
  have hbehind : behindSlashes ("//".toList ++ (host ++ more)) = host ++ more := by
    obtain ⟨c, rest, rfl⟩ := List.exists_cons_of_ne_nil hne
    have hc : (c == '/' || c == '\\') = false := by
      have hstays := hhost c List.mem_cons_self
      rw [endsAuthority] at hstays
      revert hstays
      cases c == '/' <;> cases c == '\\' <;> simp
    rw [behindSlashes, List.dropWhile_append_of_pos (by simp), List.cons_append,
      List.dropWhile_cons, hc, if_neg Bool.false_ne_true]
  have hscheme : readScheme? (clean text.toList) =
      some ("http", "//".toList ++ (host ++ more)) := by
    rw [hclean, List.append_assoc]
    exact readScheme?_http _
  rw [parse?_of_web (.inl rfl) hscheme, hbehind, spanUntil_append hhost hmore]

/-! ### Paths -/

/-- What holds of all segments, and of the empty one, still holds when dots are resolved. -/
theorem forall_mem_resolveFrom {p : List Char → Prop} (hempty : p [])
    {before segments : List (List Char)} (hbefore : ∀ segment ∈ before, p segment)
    (hsegments : ∀ segment ∈ segments, p segment) :
    ∀ segment ∈ resolveFrom before segments, p segment := by
  have hcons {first : List Char} {rest : List (List Char)} (hfirst : p first)
      (hrest : ∀ segment ∈ rest, p segment) : ∀ segment ∈ (first :: rest).reverse, p segment :=
    fun segment hmem => List.forall_mem_cons.2 ⟨hfirst, hrest⟩ segment (List.mem_reverse.1 hmem)
  have htail {rest : List (List Char)} (hrest : ∀ segment ∈ rest, p segment) :
      ∀ segment ∈ rest.tail, p segment :=
    fun segment hmem => hrest segment (List.mem_of_mem_tail hmem)
  fun_induction resolveFrom before segments with
  | case1 before => exact fun segment hmem => hbefore segment (List.mem_reverse.1 hmem)
  | case2 before last _ => exact hcons hempty (htail hbefore)
  | case3 before last _ _ => exact hcons hempty hbefore
  | case4 before last _ _ => exact hcons (hsegments last List.mem_cons_self) hbefore
  | case5 before segment rest _ _ ih =>
    exact ih (htail hbefore) (List.forall_mem_cons.1 hsegments).2
  | case6 before segment rest _ _ _ ih => exact ih hbefore (List.forall_mem_cons.1 hsegments).2
  | case7 before segment rest _ _ _ ih =>
    obtain ⟨hfirst, hrest⟩ := List.forall_mem_cons.1 hsegments
    exact ih (List.forall_mem_cons.2 ⟨hfirst, hbefore⟩) hrest

/-- The path of a web address, in terms of its segments. -/
theorem rootedPath_slash (cs : List Char) :
    rootedPath true ('/' :: cs) =
      pathText (resolveFrom []
        ((Text.cut '/' (cs.map fun c => if c == '\\' then '/' else c)).map
          (percentEncode keepPath))) := rfl

/-- A character of a path that begins at the root was there, as it is or as a backslash, and is
one that stands for itself in a path. -/
theorem mem_of_mem_rootedPath {c : Char} {cs : List Char} (hslash : c ≠ '/') (hsign : c ≠ '%')
    (hdigit : hexDigitValue? c = none) (h : c ∈ rootedPath true cs) :
    c ∈ cs.map (fun c => if c == '\\' then '/' else c) ∧ keepPath c = true := by
  rw [rootedPath, if_pos rfl] at h
  generalize cs.map (fun c => if c == '\\' then '/' else c) = slashed at h ⊢
  obtain ⟨relative, hrelative, h⟩ : ∃ relative, relative ⊆ slashed ∧ c ∈ pathText
      (resolveFrom [] ((Text.cut '/' relative).map (percentEncode keepPath))) := by
    split at h
    · exact ⟨_, List.subset_cons_self _ _, h⟩
    · exact ⟨_, List.Subset.refl _, h⟩
  have hsegments : ∀ segment ∈ resolveFrom []
      ((Text.cut '/' relative).map (percentEncode keepPath)),
        c ∈ segment → c ∈ slashed ∧ keepPath c = true := by
    refine forall_mem_resolveFrom (fun hmem => absurd hmem List.not_mem_nil)
      (List.forall_mem_nil _) (List.forall_mem_map.2 fun part hpart hmem => ?_)
    obtain ⟨hmem, hkeep⟩ := (mem_percentEncode_iff hsign hdigit).1 hmem
    exact ⟨hrelative (Text.mem_of_mem_cut hpart hmem), hkeep⟩
  obtain ⟨segment, hsegment, hmem⟩ := List.mem_flatMap.1 h
  exact hsegments segment hsegment ((List.mem_cons.1 hmem).resolve_left hslash)

/-- A backslash in a web address is read as a slash. -/
theorem backslash_notMem_rootedPath (cs : List Char) : '\\' ∉ rootedPath true ('/' :: cs) := by
  intro hmem
  obtain ⟨hmem, -⟩ := mem_of_mem_rootedPath (by decide) (by decide) (by decide) hmem
  obtain ⟨c, -, hc⟩ := List.mem_map.1 hmem
  split at hc
  · exact absurd hc (by decide)
  · next hne => exact hne (beq_iff_eq.2 hc)

end Url

end Http

end FlowScript
