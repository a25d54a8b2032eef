/-!
# Cutting and joining

A text is cut at every occurrence of a separator, and parts are joined by the separator
into a text. Cutting gives one part more than there are separators, so a text without
any is one part, and joining gives back what was cut. Lines are parts between line
feeds.
-/

namespace FlowScript

namespace Text

/-- The parts of a text between separators. There is always one. -/
def cut (separator : Char) : List Char → List (List Char)
  | [] => [[]]
  | c :: rest =>
    if c = separator then [] :: cut separator rest
    else
      match cut separator rest with
      | [] => [[c]]
      | part :: parts => (c :: part) :: parts

/-- Parts as one text, with a separator between them. -/
def joinWith (separator : Char) : List (List Char) → List Char
  | [] => []
  | [part] => part
  | part :: rest => part ++ separator :: joinWith separator rest

/-- There is always a part. -/
theorem cut_ne_nil (separator : Char) (cs : List Char) : cut separator cs ≠ [] := by
  cases cs with
  | nil => simp [cut]
  | cons c rest =>
    rw [cut]
    split
    · simp
    · split <;> simp

/-- A text is the parts it is cut into. -/
theorem joinWith_cut (separator : Char) (cs : List Char) :
    joinWith separator (cut separator cs) = cs := by
  induction cs with
  | nil => rfl
  | cons c rest ih =>
    obtain ⟨part, parts, h⟩ := List.exists_cons_of_ne_nil (cut_ne_nil separator rest)
    rw [cut]
    split
    · next hc => rw [h, joinWith, ← h, ih, hc] <;> simp
    · rw [h] at ih ⊢
      cases parts <;> simp_all [joinWith]

/-! ### Lines -/

/-- The lines of a text. -/
def cutLines (cs : List Char) : List (List Char) := cut '\n' cs

/-- Lines as one text. -/
def joinLines (lines : List (List Char)) : List Char := joinWith '\n' lines

/-- The lines of a string. -/
def linesOf (s : String) : List String := (cutLines s.toList).map String.ofList

/-- Lines as one string. -/
def unlines (lines : List String) : String := String.ofList (joinLines (lines.map String.toList))

end Text

end FlowScript
