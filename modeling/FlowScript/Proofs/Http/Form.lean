import FlowScript.Proofs.Http.Url

/-!
# Forms read back

A form is read by cutting it at its `&` signs and each part at its first `=`; in names and values
a plus sign is a space, and then the bytes are decoded. What was encoded comes back, whatever
characters the names and values have (`formPairsOf_formPairs`): the signs that cut a form are never
left in an encoded text (`notMem_formText`), and a character is decoded by itself, before whatever
follows (`percentDecode_formChar`).
-/

namespace FlowScript

namespace Http

/-! ### Reading -/

/-- The character that stands for a character in a form before bytes are decoded. -/
def spaceForPlus (c : Char) : Char := if c == '+' then ' ' else c

/-- The text that an encoded name or value stands for. -/
def formTextOf (cs : List Char) : String :=
  Text.Utf8.tolerant (percentDecode (cs.map spaceForPlus))

/-- The pair that a part of a form stands for; without an equals sign its value is empty. -/
def formPairOf (part : List Char) : String × String :=
  let (name, rest) := Url.spanUntil (· == '=') part
  (formTextOf name, formTextOf rest.tail)

/-- The pairs of a form. Empty parts are passed over. -/
def formPairsOf (cs : List Char) : List (String × String) :=
  ((Text.cut '&' cs).filter fun part => !part.isEmpty).map formPairOf

/-! ### Characters -/

theorem percentEncode_singleton (c : Char) : percentEncode (fun _ => false) [c] = percentChar c :=
  List.append_nil _

/-- A sign that is neither kept nor part of an encoded byte is not left. -/
theorem notMem_formText {c : Char} (hsign : c ≠ '%') (hplus : c ≠ '+')
    (hdigit : hexDigitValue? c = none) (hkeep : keepForm c = false) (s : String) :
    c ∉ formText s := by
  intro hmem
  obtain ⟨d, -, hmem⟩ := List.mem_flatMap.1 hmem
  rw [formChar] at hmem
  split at hmem
  · exact hplus (List.mem_singleton.1 hmem)
  · split at hmem
    · next hkept =>
      rw [← List.mem_singleton.1 hmem, hkeep] at hkept
      cases hkept
    · rw [← percentEncode_singleton, mem_percentEncode_iff hsign hdigit] at hmem
      exact Bool.false_ne_true hmem.2

/-- A percent-encoded character has no plus sign in it, so reading plus signs as spaces does not
harm it. -/
theorem map_spaceForPlus_percentChar (c : Char) :
    (percentChar c).map spaceForPlus = percentChar c := by
  have hplus : '+' ∉ percentChar c := by
    rw [← percentEncode_singleton, mem_percentEncode_iff (by decide) (by decide)]
    exact fun h => Bool.false_ne_true h.2
  have hsame : ∀ d ∈ percentChar c, spaceForPlus d = d := by
    intro d hd
    refine if_neg fun heq => hplus ?_
    rwa [← beq_iff_eq.1 heq]
  rw [List.map_congr_left hsame, List.map_id']

/-- **Step.** An encoded character gives its bytes, whatever follows. -/
theorem percentDecode_formChar (c : Char) (cs : List Char) :
    percentDecode ((formChar c ++ cs).map spaceForPlus) =
      String.utf8EncodeChar c ++ percentDecode (cs.map spaceForPlus) := by
  rw [List.map_append, formChar]
  split
  · next hspace =>
    rw [beq_iff_eq.1 hspace]
    exact percentDecode_cons rfl
  · split
    · next hkeep =>
      -- a character that is kept is neither of the two signs
      have hsigns : c ≠ '+' ∧ c ≠ '%' := by
        constructor <;>
        · rintro rfl
          exact absurd hkeep (by decide)
      have hsame : [c].map spaceForPlus = [c] := by
        rw [List.map_singleton, spaceForPlus, if_neg (mt beq_iff_eq.1 hsigns.1)]
      rw [hsame, List.singleton_append]
      refine percentDecode_cons ?_
      rw [beq_eq_false_iff_ne.2 hsigns.2, Bool.false_and]
    · rw [map_spaceForPlus_percentChar, percentChar, percentDecode_flatMap_percentByte]

/-! ### Texts, pairs and forms -/

/-- **A name or value is read back** from its form. Each character is kept, or a space and so a plus
sign, or percent-encoded; a plus sign of the text itself is of the third kind and does not become a
space. -/
theorem formTextOf_formText (s : String) : formTextOf (formText s) = s := by
  have hbytes : percentDecode ((formText s).map spaceForPlus) = Text.Utf8.encode s.toList := by
    rw [formText, Text.Utf8.encode]
    induction s.toList with
    | nil => rfl
    | cons c rest ih =>
      rw [List.flatMap_cons, percentDecode_formChar, ih, List.flatMap_cons]
  rw [formTextOf, hbytes, Text.Utf8.tolerant_encode]

/-- **A pair is read back**: the first equals sign is the one between name and value, for none is in
the form of the name. -/
theorem formPairOf_formPair (pair : String × String) : formPairOf (formPair pair) = pair := by
  have hname : ∀ c ∈ formText pair.1, (c == '=') = false := by
    intro c hc
    rw [beq_eq_false_iff_ne]
    rintro rfl
    exact notMem_formText (by decide) (by decide) (by decide) (by decide) _ hc
  rw [formPairOf, formPair, Url.spanUntil_append hname rfl]
  dsimp only
  rw [List.tail_cons, formTextOf_formText, formTextOf_formText]

/-- Nor is an ampersand, so pairs can be told apart. -/
theorem ampersand_notMem_formPair (pair : String × String) : '&' ∉ formPair pair := by
  have htext (s : String) : '&' ∉ formText s :=
    notMem_formText (by decide) (by decide) (by decide) (by decide) s
  rw [formPair, List.mem_append, List.mem_cons]
  rintro (hname | hsign | hvalue)
  · exact htext _ hname
  · exact absurd hsign (by decide)
  · exact htext _ hvalue

theorem formPair_ne_nil (pair : String × String) : formPair pair ≠ [] :=
  List.append_ne_nil_of_right_ne_nil _ (List.cons_ne_nil _ _)

/-- A form that was written is read back. -/
theorem formPairsOf_formPairs (pairs : List (String × String)) :
    formPairsOf (formPairs pairs) = pairs := by
  by_cases hne : pairs = []
  · rw [hne]
    rfl
  · have hcut : Text.cut '&' (formPairs pairs) = pairs.map formPair :=
      Text.cut_joinWith_of_notMem (mt List.map_eq_nil_iff.1 hne)
        (List.forall_mem_map.2 fun pair _ => ampersand_notMem_formPair pair)
    have hkept : (pairs.map formPair).filter (fun part => !part.isEmpty) = pairs.map formPair := by
      refine List.filter_eq_self.2 (List.forall_mem_map.2 fun pair _ => ?_)
      rw [Bool.not_eq_true', List.isEmpty_eq_false_iff]
      exact formPair_ne_nil pair
    have hread : formPairOf ∘ formPair = id := funext formPairOf_formPair
    rw [formPairsOf, hcut, hkept, List.map_map, hread, List.map_id]

end Http

end FlowScript
