import FlowScript.Proofs.Refactor.WholeWords

/-!
# Rules settle each line

What a rule puts in place of a word is a word again, so it neither runs into its neighbours nor
falls apart: the pieces of the new text are the pieces of the old one, each of them revised
(`Rule.isCutting_map_replaced`). If the new word is none of those that the rule replaces, there is
nothing left to do (`Rule.Settles`), and applying the rule again changes nothing
(`Rule.apply_apply`).

A rule brings no line feeds either, so the lines of the new text are those of the old one, each of
them revised by itself (`Rule.linesOf_apply`).
-/

namespace FlowScript

open Text

namespace Rule

variable {rule : Rule}

/-- Nothing is left to do for a rule where it has been applied. -/
structure Settles (rule : Rule) : Prop where
  /-- the words of the rule are words -/
  wellFormed : rule.WellFormed
  /-- what replaces them is a word -/
  word : rule.replacement.toList ≠ [] ∧ ∀ c ∈ rule.replacement.toList, isWordChar c = true
  /-- what replaces them is not replaced itself -/
  settled : rule.replacement.toList ∉ rule.words.map String.toList

/-! ### Pieces -/

/-- A revised piece, as a piece. -/
def replaced (rule : Rule) : Piece → Piece
  | .word run => .word (rule.revised (.word run))
  | .other c => .other c

/-- Replacing a piece is replacing its characters. -/
theorem chars_replaced (rule : Rule) (piece : Piece) :
    (rule.replaced piece).chars = rule.revised piece := by
  cases piece <;> rfl

/-- A word is replaced by a word, and so the cutting of a line into pieces stays as it was. -/
theorem isWord_replaced (rule : Rule) (piece : Piece) :
    (rule.replaced piece).isWord = piece.isWord := by
  cases piece <;> rfl

theorem revised_word_of_mem {run : List Char} (h : run ∈ rule.words.map String.toList) :
    rule.revised (.word run) = rule.replacement.toList := if_pos h

theorem revised_word_of_notMem {run : List Char} (h : run ∉ rule.words.map String.toList) :
    rule.revised (.word run) = run := if_neg h

/-- The pieces of a text, each of them revised, are the pieces of the revised text. -/
theorem isCutting_map_replaced (hrule : rule.Settles) {ps : List Piece} {cs : List Char}
    (h : IsCutting ps cs) : IsCutting (ps.map rule.replaced) (ps.flatMap rule.revised) where
  joined := by
    rw [List.flatMap_map]
    exact List.flatMap_congr fun piece _ => rule.chars_replaced piece
  words run hrun := by
    obtain ⟨piece, hpiece, heq⟩ := List.mem_map.1 hrun
    cases piece with
    | other c => cases heq
    | word old =>
      obtain rfl : rule.revised (.word old) = run := by simpa [replaced] using heq
      by_cases hmem : old ∈ rule.words.map String.toList
      · rw [revised_word_of_mem hmem]
        exact hrule.word
      · rw [revised_word_of_notMem hmem]
        exact h.words old hpiece
  others c hc := by
    obtain ⟨piece, hpiece, heq⟩ := List.mem_map.1 hc
    cases piece with
    | word old => cases heq
    | other d =>
      obtain rfl : d = c := by simpa [replaced] using heq
      exact h.others d hpiece
  maximal := by
    -- words stay words, so none of them comes to stand next to another
    rw [List.isChain_map]
    simp only [isWord_replaced]
    exact h.maximal

/-- What was replaced is not replaced again, because the replacement is none of the words that the
rule replaces. -/
theorem revised_replaced (hrule : rule.Settles) (piece : Piece) :
    rule.revised (rule.replaced piece) = rule.revised piece := by
  cases piece with
  | other c => rfl
  | word run =>
    rw [replaced]
    by_cases hmem : run ∈ rule.words.map String.toList
    · rw [revised_word_of_mem hmem, revised_word_of_notMem hrule.settled]
    · rw [revised_word_of_notMem hmem, revised_word_of_notMem hmem]

/-! ### Applying a rule again -/

/-- So a rule does to a line all that it ever does at once. -/
theorem applyLine_applyLine (hrule : rule.Settles) (cs : List Char) :
    rule.applyLine (rule.applyLine cs) = rule.applyLine cs := by
  have hcutting := isCutting_map_replaced hrule (isCutting_pieces cs)
  rw [applyLine_eq hrule.wellFormed cs, applyLine_eq_of_isCutting hrule.wellFormed hcutting,
    List.flatMap_map]
  exact List.flatMap_congr fun piece _ => revised_replaced hrule piece

/-- **A rule settles** a text, line by line. -/
theorem apply_apply (hrule : rule.Settles) (code : String) :
    rule.apply (rule.apply code) = rule.apply code := by
  simp only [apply_eq_applyLine hrule.wellFormed, String.toList_ofList, applyLine_applyLine hrule]

/-! ### Lines -/

/-- A revised line is a line. -/
theorem lineFeed_notMem_applyLine (hrule : rule.Settles) {line : List Char} (h : '\n' ∉ line) :
    '\n' ∉ rule.applyLine line := by
  intro hmem
  rw [applyLine_eq hrule.wellFormed] at hmem
  obtain ⟨piece, hpiece, hfeed⟩ := List.mem_flatMap.1 hmem
  have hkept : '\n' ∉ piece.chars := by
    intro hchars
    apply h
    rw [← (isCutting_pieces line).joined]
    exact List.mem_flatMap.2 ⟨piece, hpiece, hchars⟩
  cases piece with
  | other c => exact hkept hfeed
  | word run =>
    by_cases hword : run ∈ rule.words.map String.toList
    · rw [revised_word_of_mem hword] at hfeed
      exact absurd (hrule.word.2 '\n' hfeed) (by decide)
    · rw [revised_word_of_notMem hword] at hfeed
      exact hkept hfeed

/-- No rule makes or removes a line, because no replacement has a line feed. -/
theorem linesOf_apply (hrule : rule.Settles) (code : String) :
    linesOf (rule.apply code) = (linesOf code).map rule.apply := by
  have hlines : cut '\n' (joinLines ((cutLines code.toList).map rule.applyLine)) =
      (cutLines code.toList).map rule.applyLine := by
    apply cut_joinWith_of_notMem
    · simpa [cutLines] using cut_ne_nil '\n' code.toList
    · intro part hpart
      obtain ⟨line, hline, rfl⟩ := List.mem_map.1 hpart
      exact lineFeed_notMem_applyLine hrule (separator_notMem_of_mem_cut hline)
  rw [linesOf, apply, String.toList_ofList, cutLines, hlines, linesOf, List.map_map, List.map_map]
  refine List.map_congr_left fun line _ => ?_
  simp [apply_eq_applyLine hrule.wellFormed]

end Rule

/-! ### All rules -/

/-- The one rule there is replaces words by a word that it does not replace. -/
theorem preferConst_settles : preferConst.Settles where
  wellFormed := preferConst_wellFormed
  word := ⟨by decide, List.all_eq_true.1 (by decide +kernel)⟩
  settled := by decide

theorem applyRules_applyRules (code intent : String) :
    applyRules (applyRules code intent) intent = applyRules code intent := by
  simp only [applyRules_eq]
  split
  · exact Rule.apply_apply preferConst_settles code
  · rfl

/-- **Line by line**: each line of the result is what the rules make of that line alone. -/
theorem linesOf_applyRules (code intent : String) :
    linesOf (applyRules code intent) = (linesOf code).map fun line => applyRules line intent := by
  simp only [applyRules_eq]
  split
  · exact Rule.linesOf_apply preferConst_settles code
  · simp

/-- **Rules settle each line.** Applied twice, they do what they do once. What they do to two texts
with a line feed between them is what they do to each. So there are as many lines as before, and
what becomes of a line is made of that line alone, wherever it stands and whatever is around
it. -/
theorem rules_settle_each_line (a b intent : String) :
    applyRules (applyRules a intent) intent = applyRules a intent ∧
    applyRules (a ++ "\n" ++ b) intent = applyRules a intent ++ "\n" ++ applyRules b intent ∧
    linesOf (applyRules a intent) = ((linesOf a).map fun line => applyRules line intent) ∧
    (linesOf (applyRules a intent)).length = (linesOf a).length ∧
    ∀ i j : Nat, (linesOf a)[i]? = (linesOf b)[j]? →
      (linesOf (applyRules a intent))[i]? = (linesOf (applyRules b intent))[j]? := by
  refine ⟨applyRules_applyRules a intent, applyRules_append_lineFeed a b intent,
    linesOf_applyRules a intent, ?_, fun i j h => ?_⟩
  · rw [linesOf_applyRules, List.length_map]
  · rw [linesOf_applyRules, linesOf_applyRules, List.getElem?_map, List.getElem?_map, h]

/-- A line is revised as it is in another place, and is then left as it is. -/
theorem outlet_settled :
    (linesOf (applyRules "let a\n\nvar outlet" "use const"))[2]? =
        (linesOf (applyRules "var outlet\nlet" "use const"))[0]? ∧
      (linesOf (applyRules "var outlet\nlet" "use const"))[0]? = some "const outlet" ∧
      applyRules "const outlet" "use const" = "const outlet" := by
  obtain ⟨-, -, -, -, hplaces⟩ :=
    rules_settle_each_line "let a\n\nvar outlet" "var outlet\nlet" "use const"
  obtain ⟨-, -, hlines, -⟩ := rules_settle_each_line "var outlet\nlet" "" "use const"
  obtain ⟨htwice, -⟩ := rules_settle_each_line "var outlet" "" "use const"
  have honce : applyRules "var outlet" "use const" = "const outlet" := by decide +kernel
  have hfirst : linesOf "var outlet\nlet" = ["var outlet", "let"] := by decide +kernel
  refine ⟨hplaces 2 0 (by decide +kernel), ?_, ?_⟩
  · rw [hlines, hfirst, List.map_cons, honce]
    rfl
  · rwa [honce] at htwice

end FlowScript
