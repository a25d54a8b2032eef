import FlowScript.Text.CharClass
import FlowScript.Text.Lines
import Mathlib.Data.List.Chain

/-!
# Words and what stands between them

A text is cut into its words, the longest runs of word characters, and the single
characters between them. The cutting is there for every text (`isCutting_pieces`), and
there is only one (`IsCutting.eq_pieces`): a word that ended before it has to would stand
next to another word.

A character outside of words separates: the pieces on its two sides do not depend on each
other (`pieces_append_other`). Line feeds are such characters.
-/

namespace FlowScript

namespace Text

/-- A part of a text. -/
inductive Piece where
  /-- a run of word characters -/
  | word (run : List Char)
  /-- a character outside of words -/
  | other (c : Char)
deriving DecidableEq

namespace Piece

/-- The characters of a piece. -/
def chars : Piece → List Char
  | .word run => run
  | .other c => [c]

/-- Whether the piece is a run of word characters. -/
def isWord : Piece → Bool
  | .word _ => true
  | .other _ => false

end Piece

/-- Puts a word character in front of pieces. -/
def consWordChar (c : Char) : List Piece → List Piece
  | .word run :: rest => .word (c :: run) :: rest
  | rest => .word [c] :: rest

/-- The pieces of a text. -/
def pieces : List Char → List Piece
  | [] => []
  | c :: rest => if isWordChar c then consWordChar c (pieces rest) else .other c :: pieces rest

/-- A list of pieces cuts a text into its longest runs of word characters and the
characters between them. -/
structure IsCutting (ps : List Piece) (cs : List Char) : Prop where
  /-- nothing is lost -/
  joined : ps.flatMap Piece.chars = cs
  /-- words are runs of word characters -/
  words : ∀ run, .word run ∈ ps → run ≠ [] ∧ ∀ c ∈ run, isWordChar c = true
  /-- word characters stand in words only -/
  others : ∀ c, .other c ∈ ps → isWordChar c = false
  /-- no two words stand next to each other -/
  maximal : ps.IsChain fun a b => ¬ (a.isWord = true ∧ b.isWord = true)

/-! ### The pieces are the cutting -/

@[simp] theorem pieces_nil : pieces [] = [] := rfl

theorem pieces_cons_other {c : Char} (h : isWordChar c = false) (rest : List Char) :
    pieces (c :: rest) = .other c :: pieces rest := by
  rw [pieces, if_neg (by simp [h])]

theorem pieces_cons_word {c : Char} (h : isWordChar c = true) (rest : List Char) :
    pieces (c :: rest) = consWordChar c (pieces rest) := by
  rw [pieces, if_pos h]

/-- Where a text does not begin with a word character, its pieces do not begin with a
word. -/
theorem head?_pieces {cs : List Char} (h : cs.head?.any isWordChar = false) :
    (pieces cs).head?.any Piece.isWord = false := by
  cases cs with
  | nil => rfl
  | cons c rest =>
    rw [pieces_cons_other (by simpa using h)]
    rfl

/-- A word character begins a word of its own if no word follows it. -/
theorem consWordChar_of_head? {ps : List Piece} (h : ps.head?.any Piece.isWord = false) (c : Char) :
    consWordChar c ps = .word [c] :: ps := by
  match ps, h with
  | [], _ => rfl
  | .other _ :: _, _ => rfl

/-- A run of word characters that does not go on is one piece. -/
theorem pieces_append_word {run rest : List Char} (hne : run ≠ [])
    (hrun : ∀ c ∈ run, isWordChar c = true) (hrest : rest.head?.any isWordChar = false) :
    pieces (run ++ rest) = .word run :: pieces rest := by
  induction run with
  | nil => exact absurd rfl hne
  | cons c more ih =>
    rw [List.cons_append, pieces_cons_word (hrun c List.mem_cons_self)]
    cases more with
    | nil => exact consWordChar_of_head? (head?_pieces hrest) c
    | cons d more =>
      rw [ih (by simp) fun e he => hrun e (List.mem_cons_of_mem _ he)]
      rfl

/-- A character outside of words separates the pieces before it from those behind it. -/
theorem pieces_append_other {c : Char} (h : isWordChar c = false) (cs rest : List Char) :
    pieces (cs ++ c :: rest) = pieces cs ++ .other c :: pieces rest := by
  induction cs with
  | nil => exact pieces_cons_other h rest
  | cons d more ih =>
    rw [List.cons_append]
    by_cases hd : isWordChar d = true
    · rw [pieces_cons_word hd, pieces_cons_word hd, ih]
      match pieces more with
      | [] => rfl
      | .word _ :: _ => rfl
      | .other _ :: _ => rfl
    · rw [pieces_cons_other (by simpa using hd), pieces_cons_other (by simpa using hd), ih]
      rfl

/-- A word character in front of a cutting lengthens its first word, or begins one before another
character. In both cases the cutting is one of the longer text, and its words are still the
longest. -/
theorem IsCutting.consWordChar {ps : List Piece} {cs : List Char} (h : IsCutting ps cs) {c : Char}
    (hc : isWordChar c = true) : IsCutting (consWordChar c ps) (c :: cs) := by
  obtain ⟨rfl, hwords, hothers, hmaximal⟩ := h
  match ps with
  | [] =>
    refine ⟨rfl, fun run hrun => ?_, fun d hd => ?_, .singleton _⟩
    · obtain rfl : run = [c] := by simpa [Text.consWordChar] using hrun
      simp [hc]
    · simp [Text.consWordChar] at hd
  | .other d :: rest =>
    refine ⟨rfl, fun run hrun => ?_, fun e he => ?_, .cons_cons (by simp [Piece.isWord]) hmaximal⟩
    · rcases List.mem_cons.1 hrun with hrun | hrun
      · obtain rfl : run = [c] := by simpa using hrun
        simp [hc]
      · exact hwords run hrun
    · rcases List.mem_cons.1 he with he | he
      · cases he
      · exact hothers e he
  | .word run :: rest =>
    refine ⟨rfl, fun other hother => ?_, fun e he => ?_, ?_⟩
    · rcases List.mem_cons.1 hother with hother | hother
      · obtain rfl : other = c :: run := by simpa using hother
        refine ⟨by simp, fun d hd => ?_⟩
        rcases List.mem_cons.1 hd with rfl | hd
        · exact hc
        · exact (hwords run List.mem_cons_self).2 d hd
      · exact hwords other (List.mem_cons_of_mem _ hother)
    · rcases List.mem_cons.1 he with he | he
      · cases he
      · exact hothers e (List.mem_cons_of_mem _ he)
    · cases rest with
      | nil => exact .singleton _
      | cons next more =>
        obtain ⟨hnext, hmore⟩ := List.isChain_cons_cons.1 hmaximal
        exact .cons_cons hnext hmore

/-- Every text is cut into its pieces. -/
theorem isCutting_pieces (cs : List Char) : IsCutting (pieces cs) cs := by
  induction cs with
  | nil => exact ⟨rfl, by simp, by simp, .nil⟩
  | cons c rest ih =>
    by_cases hc : isWordChar c = true
    · rw [pieces_cons_word hc]
      exact ih.consWordChar hc
    · have hc : isWordChar c = false := by simpa using hc
      rw [pieces_cons_other hc]
      obtain ⟨hjoined, hwords, hothers, hmaximal⟩ := ih
      refine ⟨by simp [Piece.chars, hjoined], fun run hrun => ?_, fun d hd => ?_, ?_⟩
      · rcases List.mem_cons.1 hrun with hrun | hrun
        · cases hrun
        · exact hwords run hrun
      · rcases List.mem_cons.1 hd with hd | hd
        · cases hd
          exact hc
        · exact hothers d hd
      · cases hps : pieces rest with
        | nil => exact .singleton _
        | cons next more => exact .cons_cons (by simp [Piece.isWord]) (hps ▸ hmaximal)

/-- What is left of a cutting behind its first piece is a cutting of the rest. -/
theorem IsCutting.tail {p : Piece} {ps : List Piece} {cs : List Char}
    (h : IsCutting (p :: ps) cs) : IsCutting ps (ps.flatMap Piece.chars) :=
  ⟨rfl, fun run hrun => h.words run (List.mem_cons_of_mem _ hrun),
    fun c hc => h.others c (List.mem_cons_of_mem _ hc), h.maximal.tail⟩

/-- Behind a word, no word character follows. -/
theorem IsCutting.head?_behind_word {run : List Char} {ps : List Piece} {cs : List Char}
    (h : IsCutting (.word run :: ps) cs) :
    (ps.flatMap Piece.chars).head?.any isWordChar = false := by
  match ps with
  | [] => rfl
  | .other c :: _ =>
    have hc : isWordChar c = false := h.others c (by simp)
    simpa [Piece.chars] using hc
  | .word _ :: _ =>
    exact absurd ⟨rfl, rfl⟩ (List.isChain_cons_cons.1 h.maximal).1

/-- There is no other cutting of a text than its pieces. -/
theorem IsCutting.eq_pieces {ps : List Piece} {cs : List Char} (h : IsCutting ps cs) :
    ps = pieces cs := by
  induction ps generalizing cs with
  | nil =>
    obtain rfl : [] = cs := h.joined
    rfl
  | cons p rest ih =>
    have hrest : rest = pieces (rest.flatMap Piece.chars) := ih h.tail
    obtain rfl := h.joined
    rw [List.flatMap_cons]
    cases p with
    | word run =>
      obtain ⟨hne, hrun⟩ := h.words run List.mem_cons_self
      rw [Piece.chars, pieces_append_word hne hrun h.head?_behind_word, ← hrest]
    | other c =>
      rw [Piece.chars, List.singleton_append, pieces_cons_other (h.others c List.mem_cons_self),
        ← hrest]

end Text

end FlowScript
