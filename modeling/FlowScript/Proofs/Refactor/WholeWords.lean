import FlowScript.Proofs.Text.Lines
import FlowScript.Proofs.Text.Pieces
import FlowScript.Refactor.Rule
import Mathlib.Data.List.Infix

/-!
# Rules replace whole words

A rule is applied by a scan: line by line, from left to right, looking at the characters
on both sides of each match. What it does is said without scanning: the text is cut into
its pieces, and every word of the rule is replaced (`Rule.apply_eq`).

The scan is followed from one place outside of words to the next. There it meets a word,
which it either replaces and steps over (`applyFrom_skip`) or copies to its end
(`applyFrom_behindWord`), and is again outside of words.
-/

namespace FlowScript

open Text

namespace Rule

/-- The words of a rule are words: not empty, and of word characters only. -/
def WellFormed (rule : Rule) : Prop :=
  ∀ word ∈ rule.words, word.toList ≠ [] ∧ ∀ c ∈ word.toList, isWordChar c = true

/-- What the rule makes of a piece of text: a word of the rule is replaced, all else
stays. -/
def revised (rule : Rule) : Piece → List Char
  | .word run => if run ∈ rule.words.map String.toList then rule.replacement.toList else run
  | .other c => [c]

/-! ### Matches -/

/-- A word of word characters stands at the front of a text and ends there exactly when it
is the run of word characters there. -/
theorem wordAt_iff {word rest : List Char} (hword : ∀ c ∈ word, isWordChar c = true) :
    wordAt word rest = true ↔ word = rest.takeWhile isWordChar := by
  rw [wordAt, Bool.and_eq_true, Bool.not_eq_true', List.isPrefixOf_iff_prefix]
  constructor
  · rintro ⟨⟨behind, rfl⟩, hend⟩
    rw [List.drop_left] at hend
    rw [List.takeWhile_append_of_pos hword]
    cases behind with
    | nil => simp
    | cons c _ => simp [show isWordChar c = false by simpa using hend]
  · intro h
    refine ⟨h ▸ List.takeWhile_prefix _, ?_⟩
    have hdrop : rest.drop word.length = rest.dropWhile isWordChar := by
      rw [h]
      nth_rewrite 2 [← List.takeWhile_append_dropWhile (p := isWordChar) (l := rest)]
      rw [List.drop_left]
    rw [hdrop]
    have hhead := List.head?_dropWhile_not isWordChar rest
    cases hcase : (rest.dropWhile isWordChar).head? with
    | none => rfl
    | some c => simpa [hcase] using hhead

/-- The scan finds a match exactly when the run of word characters at the front is a word
of the rule, and then the match is that run. -/
theorem match?_eq {rule : Rule} (hrule : rule.WellFormed) (rest : List Char) :
    rule.match? rest =
      if rest.takeWhile isWordChar ∈ rule.words.map String.toList then
        some (rest.takeWhile isWordChar)
      else none := by
  have hat : ∀ word ∈ rule.words.map String.toList,
      (wordAt word rest = true ↔ word = rest.takeWhile isWordChar) := by
    intro word hword
    obtain ⟨s, hs, rfl⟩ := List.mem_map.1 hword
    exact wordAt_iff (hrule s hs).2
  rw [match?]
  cases hfind : (rule.words.map String.toList).find? fun word => wordAt word rest with
  | none =>
    rw [List.find?_eq_none] at hfind
    rw [if_neg fun hmem => hfind _ hmem ((hat _ hmem).2 rfl)]
  | some word =>
    have hmem := List.mem_of_find?_eq_some hfind
    have hword : wordAt word rest = true :=
      List.find?_some (p := fun word => wordAt word rest) hfind
    obtain rfl : word = rest.takeWhile isWordChar := (hat word hmem).1 hword
    rw [if_pos hmem]

/-- Where no word begins there is no match. -/
theorem match?_eq_none {rule : Rule} (hrule : rule.WellFormed) {rest : List Char}
    (h : rest.head?.any isWordChar = false) : rule.match? rest = none := by
  have hrun : rest.takeWhile isWordChar = [] := by
    cases rest with
    | nil => rfl
    | cons c _ => simp [show isWordChar c = false by simpa using h]
  rw [match?_eq hrule, hrun, if_neg]
  intro hmem
  obtain ⟨word, hword, hnil⟩ := List.mem_map.1 hmem
  exact (hrule word hword).1 hnil

/-! ### The scan -/

/-- Where no word begins, it does not matter what stood before. -/
theorem applyFrom_of_head? {rule : Rule} (hrule : rule.WellFormed) {rest : List Char}
    (h : rest.head?.any isWordChar = false) (behindWord : Bool) :
    rule.applyFrom 0 behindWord rest = rule.applyFrom 0 false rest := by
  cases rest with
  | nil => rfl
  | cons c more => simp only [applyFrom, match?_eq_none hrule h, ite_self]

/-- Behind a word character, the scan copies to the end of the word. -/
theorem applyFrom_behindWord {rule : Rule} (hrule : rule.WellFormed) (run : List Char)
    {rest : List Char} (hrun : ∀ c ∈ run, isWordChar c = true)
    (h : rest.head?.any isWordChar = false) :
    rule.applyFrom 0 true (run ++ rest) = run ++ rule.applyFrom 0 false rest := by
  induction run with
  | nil => exact applyFrom_of_head? hrule h true
  | cons c more ih =>
    have hc : isWordChar c = true := hrun c List.mem_cons_self
    rw [List.cons_append, applyFrom]
    simp only [if_true, hc]
    rw [ih fun d hd => hrun d (List.mem_cons_of_mem _ hd)]
    rfl

/-- Behind a match, the scan steps over the rest of the word. -/
theorem applyFrom_skip {rule : Rule} (hrule : rule.WellFormed) (run : List Char)
    {rest : List Char} (h : rest.head?.any isWordChar = false) (behindWord : Bool) :
    rule.applyFrom run.length behindWord (run ++ rest) = rule.applyFrom 0 false rest := by
  induction run generalizing behindWord with
  | nil => exact applyFrom_of_head? hrule h behindWord
  | cons c more ih =>
    rw [List.cons_append, List.length_cons, applyFrom]
    exact ih (isWordChar c)

/-- Outside of words, the scan makes of a word what the rule makes of it. -/
theorem applyFrom_word {rule : Rule} (hrule : rule.WellFormed) {run rest : List Char}
    (hne : run ≠ []) (hrun : ∀ c ∈ run, isWordChar c = true)
    (h : rest.head?.any isWordChar = false) :
    rule.applyFrom 0 false (run ++ rest) =
      rule.revised (.word run) ++ rule.applyFrom 0 false rest := by
  have htake : (run ++ rest).takeWhile isWordChar = run := by
    rw [List.takeWhile_append_of_pos hrun]
    cases rest with
    | nil => simp
    | cons c _ => simp [show isWordChar c = false by simpa using h]
  obtain ⟨c, more, rfl⟩ := List.exists_cons_of_ne_nil hne
  have hc : isWordChar c = true := hrun c List.mem_cons_self
  have hmore : ∀ d ∈ more, isWordChar d = true := fun d hd => hrun d (List.mem_cons_of_mem _ hd)
  rw [List.cons_append] at htake ⊢
  rw [applyFrom, revised]
  simp only [Bool.false_eq_true, if_false, match?_eq hrule, htake]
  by_cases hmem : c :: more ∈ rule.words.map String.toList
  · rw [if_pos hmem, if_pos hmem]
    exact congrArg _ (applyFrom_skip hrule more h _)
  · rw [if_neg hmem, if_neg hmem]
    simp only [hc]
    rw [applyFrom_behindWord hrule more hmore h]
    rfl

/-- Outside of words, the scan copies a character that begins no word. -/
theorem applyFrom_other {rule : Rule} (hrule : rule.WellFormed) {c : Char}
    (hc : isWordChar c = false) (rest : List Char) :
    rule.applyFrom 0 false (c :: rest) = c :: rule.applyFrom 0 false rest := by
  have hnone : rule.match? (c :: rest) = none := match?_eq_none hrule (by simpa using hc)
  rw [applyFrom]
  simp only [hnone, ite_self, hc]

/-- The scan of a cut text revises each piece. -/
theorem applyLine_eq_of_isCutting {rule : Rule} (hrule : rule.WellFormed) {ps : List Piece}
    {cs : List Char} (h : IsCutting ps cs) : rule.applyLine cs = ps.flatMap rule.revised := by
  rw [applyLine]
  induction ps generalizing cs with
  | nil =>
    obtain rfl : [] = cs := h.joined
    rfl
  | cons p rest ih =>
    have htail := ih h.tail
    obtain rfl := h.joined
    rw [List.flatMap_cons, List.flatMap_cons, ← htail]
    cases p with
    | word run =>
      obtain ⟨hne, hrun⟩ := h.words run List.mem_cons_self
      exact applyFrom_word hrule hne hrun h.head?_behind_word
    | other c => exact applyFrom_other hrule (h.others c List.mem_cons_self) _

/-- A line is revised piece by piece. -/
theorem applyLine_eq {rule : Rule} (hrule : rule.WellFormed) (cs : List Char) :
    rule.applyLine cs = (pieces cs).flatMap rule.revised :=
  applyLine_eq_of_isCutting hrule (isCutting_pieces cs)

/-! ### Whole texts -/

/-- A line feed is no word character, so what is done to a line does not depend on the
other lines. -/
theorem applyLine_append_lineFeed {rule : Rule} (hrule : rule.WellFormed) (a b : List Char) :
    rule.applyLine (a ++ '\n' :: b) = rule.applyLine a ++ '\n' :: rule.applyLine b := by
  have hfeed : isWordChar '\n' = false := by decide
  simp only [applyLine_eq hrule, pieces_append_other hfeed, List.flatMap_append,
    List.flatMap_cons, revised, List.singleton_append]

/-- A rule replaces its words among the pieces of the whole text. -/
theorem apply_eq {rule : Rule} (hrule : rule.WellFormed) (code : String) :
    rule.apply code = String.ofList ((pieces code.toList).flatMap rule.revised) := by
  rw [apply, joinLines, cutLines, joinWith_map_cut (applyLine_append_lineFeed hrule),
    applyLine_eq hrule]

/-- The whole text can be scanned as if it were one line. -/
theorem apply_eq_applyLine {rule : Rule} (hrule : rule.WellFormed) (code : String) :
    rule.apply code = String.ofList (rule.applyLine code.toList) := by
  rw [apply_eq hrule, applyLine_eq hrule]

/-- A rule does not look across line feeds. -/
theorem apply_append_lineFeed {rule : Rule} (hrule : rule.WellFormed) (a b : String) :
    rule.apply (a ++ "\n" ++ b) = rule.apply a ++ "\n" ++ rule.apply b := by
  have hlist : (a ++ "\n" ++ b).toList = a.toList ++ '\n' :: b.toList := by
    rw [String.toList_append, String.toList_append, List.append_assoc]
    rfl
  rw [apply_eq_applyLine hrule, apply_eq_applyLine hrule, apply_eq_applyLine hrule, hlist,
    applyLine_append_lineFeed hrule, String.ofList_append, String.ofList_cons, String.append_assoc]
  rfl

/-- An intent triggers a rule exactly when the phrase stands somewhere in it. -/
theorem occursIn_iff {needle cs : List Char} : occursIn needle cs = true ↔ needle <:+: cs := by
  induction cs with
  | nil => simp [occursIn]
  | cons c rest ih =>
    rw [occursIn, Bool.or_eq_true, ih, List.isPrefixOf_iff_prefix, List.infix_cons_iff]

end Rule

theorem preferConst_wellFormed : preferConst.WellFormed := by
  intro word hword
  simp only [preferConst, List.mem_cons, List.not_mem_nil, or_false] at hword
  rcases hword with rfl | rfl
  · exact ⟨by decide, List.all_eq_true.1 (by decide +kernel)⟩
  · exact ⟨by decide, List.all_eq_true.1 (by decide +kernel)⟩

/-- The only rule is applied when its phrase stands in the intent, and otherwise none. -/
theorem applyRules_eq (code intent : String) :
    applyRules code intent =
      if "use const".toList <:+: intent.toList then preferConst.apply code else code := by
  have htrigger : preferConst.triggeredBy intent = true ↔ "use const".toList <:+: intent.toList :=
    Rule.occursIn_iff
  rw [applyRules, triggeredRules, rules, List.filter_singleton]
  by_cases h : "use const".toList <:+: intent.toList
  · rw [if_pos h, htrigger.2 h]
    rfl
  · rw [if_neg h, Bool.eq_false_iff.2 (mt htrigger.1 h)]
    rfl

/-- What is done to one line of a code does not depend on the others. -/
theorem applyRules_append_lineFeed (a b intent : String) :
    applyRules (a ++ "\n" ++ b) intent =
      applyRules a intent ++ "\n" ++ applyRules b intent := by
  rw [applyRules_eq, applyRules_eq, applyRules_eq]
  split
  · exact Rule.apply_append_lineFeed preferConst_wellFormed a b
  · rfl

/-- What becomes of a piece of code: the words `let` and `var` become `const`, and all else
stays. -/
def constInstead : Piece → List Char
  | .word run =>
    if run = "let".toList ∨ run = "var".toList then "const".toList else run
  | .other c => [c]

theorem revised_preferConst : preferConst.revised = constInstead := by
  funext piece
  cases piece with
  | other c => rfl
  | word run =>
    have hwords : preferConst.words = ["let", "var"] := rfl
    have hmem : run ∈ preferConst.words.map String.toList ↔
        run = "let".toList ∨ run = "var".toList := by
      rw [hwords, List.map_cons, List.map_cons, List.map_nil, List.mem_pair]
    have hreplacement : preferConst.replacement = "const" := rfl
    rw [Rule.revised, constInstead, hreplacement]
    by_cases h : run = "let".toList ∨ run = "var".toList
    · rw [if_pos (hmem.2 h), if_pos h]
    · rw [if_neg (mt hmem.1 h), if_neg h]

/-- **Whole words**: a text has one cutting into its longest runs of word characters and
the characters between them. If the intent says so, the runs `let` and `var` become
`const` and every other character stays; if not, the whole text stays. -/
theorem applyRules_eq_constInstead (code intent : String) :
    (∃! ps, IsCutting ps code.toList) ∧
      ∀ ps, IsCutting ps code.toList →
        applyRules code intent =
          if "use const".toList <:+: intent.toList then String.ofList (ps.flatMap constInstead)
          else code := by
  refine ⟨⟨pieces code.toList, isCutting_pieces _, fun ps h => h.eq_pieces⟩, fun ps h => ?_⟩
  rw [applyRules_eq, Rule.apply_eq preferConst_wellFormed, revised_preferConst, h.eq_pieces]

/-- Words at the ends of lines, next to letters of other scripts, and one inside another. -/
theorem applyRules_outlet :
    applyRules "let outlet;\nvaré var" "please use const" = "const outlet;\nvaré const" := by
  have h := (applyRules_eq_constInstead "let outlet;\nvaré var" "please use const").2 _
    (isCutting_pieces _)
  rw [h]
  decide +kernel

end FlowScript
