import FlowScript.Text.Lines

/-!
# The parts of a text

A text is cut at its separators and put together again. A separator between two texts
keeps the parts of the one from those of the other (`cut_append_separator`), so what is
put together from texts is cut into the parts of each (`cut_joinWith`), and what does not
look across a separator can be done to each part by itself (`joinWith_map_cut`).

For lines this says which lines a text has that is put together from strings, some of which
may be several lines themselves (`linesOf_unlines`).
-/

namespace FlowScript

namespace Text

/-! ### What ends before a character -/

section Scanning

variable {p : Char → Bool} {stop : Char}

/-- A run that a character stops does not go beyond it, whatever follows. -/
theorem takeWhile_append_stop (h : p stop = false) (front rest : List Char) :
    (front ++ stop :: rest).takeWhile p = front.takeWhile p := by
  induction front with
  | nil => simp [h]
  | cons c front ih => rw [List.cons_append, List.takeWhile_cons, List.takeWhile_cons, ih]

/-- So what is left behind a run can be told without what follows the stop. -/
theorem dropWhile_append_stop (h : p stop = false) (front rest : List Char) :
    (front ++ stop :: rest).dropWhile p = front.dropWhile p ++ stop :: rest := by
  induction front with
  | nil => simp [h]
  | cons c front ih =>
    rw [List.cons_append, List.dropWhile_cons, List.dropWhile_cons, ih]
    split <;> rfl

end Scanning

/-! ### Parts put together -/

theorem joinWith_cons {separator : Char} (part : List Char) {parts : List (List Char)}
    (h : parts ≠ []) :
    joinWith separator (part :: parts) = part ++ separator :: joinWith separator parts := by
  cases parts with
  | nil => exact absurd rfl h
  | cons => rfl

/-- What does not look across a separator can be done to each part by itself. -/
theorem joinWith_map {separator : Char} {f : List Char → List Char}
    (hf : ∀ a b, f (a ++ separator :: b) = f a ++ separator :: f b) {parts : List (List Char)}
    (h : parts ≠ []) : joinWith separator (parts.map f) = f (joinWith separator parts) := by
  induction parts with
  | nil => exact absurd rfl h
  | cons part rest ih =>
    cases rest with
    | nil => rfl
    | cons next more =>
      rw [List.map_cons, joinWith_cons _ (by simp), joinWith_cons _ (by simp), hf, ih (by simp)]

/-- What does not look across a separator can be done to each part of a text by itself. The rules of
refactoring are of this kind, with line feeds for separators. -/
theorem joinWith_map_cut {separator : Char} {f : List Char → List Char}
    (hf : ∀ a b, f (a ++ separator :: b) = f a ++ separator :: f b) (cs : List Char) :
    joinWith separator ((cut separator cs).map f) = f cs := by
  rw [joinWith_map hf (cut_ne_nil separator cs), joinWith_cut]

/-! ### Parts cut -/

/-- **A separator separates**: the parts before it and the parts behind it do not depend on each
other. -/
theorem cut_append_separator (separator : Char) (a b : List Char) :
    cut separator (a ++ separator :: b) = cut separator a ++ cut separator b := by
  induction a with
  | nil => simp [cut]
  | cons c rest ih =>
    obtain ⟨part, parts, h⟩ := List.exists_cons_of_ne_nil (cut_ne_nil separator rest)
    by_cases hc : c = separator
    · simp [cut, hc, ih]
    · simp [cut, hc, ih, h]

/-- A text that is put together from texts has the parts of each of them. They are the texts
themselves only if there is no separator in these. -/
theorem cut_joinWith {separator : Char} {parts : List (List Char)} (h : parts ≠ []) :
    cut separator (joinWith separator parts) = parts.flatMap (cut separator) := by
  induction parts with
  | nil => exact absurd rfl h
  | cons part rest ih =>
    cases rest with
    | nil => simp [joinWith]
    | cons next more =>
      rw [joinWith_cons _ (by simp), cut_append_separator, ih (by simp), ← List.flatMap_cons]

/-- What is put in front of a text belongs to the first part, if it has no separator. -/
theorem cut_append_of_notMem {separator : Char} {a : List Char} (h : separator ∉ a)
    {b part : List Char} {parts : List (List Char)} (hcut : cut separator b = part :: parts) :
    cut separator (a ++ b) = (a ++ part) :: parts := by
  induction a with
  | nil => exact hcut
  | cons c rest ih =>
    rw [List.mem_cons, not_or] at h
    rw [List.cons_append, cut, if_neg (Ne.symm h.1), ih h.2]
    rfl

/-- Without a separator there is one part. -/
theorem cut_of_notMem {separator : Char} {cs : List Char} (h : separator ∉ cs) :
    cut separator cs = [cs] := by
  have hcut := cut_append_of_notMem h (b := []) rfl
  rwa [List.append_nil] at hcut

/-- Parts without separators are found again. -/
theorem cut_joinWith_of_notMem {separator : Char} {parts : List (List Char)} (h : parts ≠ [])
    (hparts : ∀ part ∈ parts, separator ∉ part) :
    cut separator (joinWith separator parts) = parts := by
  have hsingle : parts.map (cut separator) = parts.map fun part => [part] :=
    List.map_congr_left fun part hpart => cut_of_notMem (hparts part hpart)
  rw [cut_joinWith h, List.flatMap_def, hsingle, ← List.flatMap_def, List.flatMap_singleton']

/-- There is one part more than there are separators. -/
theorem length_cut (separator : Char) (cs : List Char) :
    (cut separator cs).length = cs.count separator + 1 := by
  induction cs with
  | nil => rfl
  | cons c rest ih =>
    obtain ⟨part, parts, hrest⟩ := List.exists_cons_of_ne_nil (cut_ne_nil separator rest)
    rw [hrest] at ih
    by_cases hc : c = separator
    · rw [cut, if_pos hc, hrest, hc, List.count_cons_self, ← ih]
      rfl
    · rw [cut, if_neg hc, hrest, List.count_cons_of_ne hc, ← ih]
      rfl

/-- No part has a separator in it. -/
theorem separator_notMem_of_mem_cut {separator : Char} {cs part : List Char}
    (h : part ∈ cut separator cs) : separator ∉ part := by
  induction cs generalizing part with
  | nil => simp_all [cut]
  | cons c rest ih =>
    obtain ⟨first, parts, hrest⟩ := List.exists_cons_of_ne_nil (cut_ne_nil separator rest)
    rw [hrest] at ih
    by_cases hc : c = separator
    · rw [cut, if_pos hc, hrest] at h
      obtain rfl | h := List.mem_cons.1 h
      · exact List.not_mem_nil
      · exact ih h
    · rw [cut, if_neg hc, hrest] at h
      obtain rfl | h := List.mem_cons.1 h
      · have hfirst : separator ∉ first := ih List.mem_cons_self
        simp [hfirst, Ne.symm hc]
      · exact ih (List.mem_cons_of_mem _ h)

/-- Cutting makes no new characters. -/
theorem mem_of_mem_cut {separator c : Char} {cs part : List Char}
    (hpart : part ∈ cut separator cs) (hc : c ∈ part) : c ∈ cs := by
  induction cs generalizing part with
  | nil =>
    rw [cut, List.mem_singleton] at hpart
    rwa [hpart] at hc
  | cons d rest ih =>
    obtain ⟨first, parts, hrest⟩ := List.exists_cons_of_ne_nil (cut_ne_nil separator rest)
    rw [hrest] at ih
    by_cases hd : d = separator
    · rw [cut, if_pos hd, hrest] at hpart
      obtain rfl | hpart := List.mem_cons.1 hpart
      · cases hc
      · exact List.mem_cons_of_mem d (ih hpart hc)
    · rw [cut, if_neg hd, hrest] at hpart
      obtain rfl | hpart := List.mem_cons.1 hpart
      · exact List.mem_cons.2 ((List.mem_cons.1 hc).imp_right (ih List.mem_cons_self))
      · exact List.mem_cons_of_mem d (ih (List.mem_cons_of_mem first hpart) hc)

/-! ### Lines of strings -/

/-- A string is its lines. -/
theorem unlines_linesOf (s : String) : unlines (linesOf s) = s := by
  simp [unlines, linesOf, joinLines, cutLines, joinWith_cut]

/-- The lines of strings put together are those of each. -/
theorem linesOf_unlines {lines : List String} (h : lines ≠ []) :
    linesOf (unlines lines) = lines.flatMap linesOf := by
  have hparts : lines.map String.toList ≠ [] := by simpa using h
  rw [unlines, linesOf, String.toList_ofList, cutLines, joinLines, cut_joinWith hparts,
    List.flatMap_map, List.map_flatMap]
  rfl

/-- No line has a line feed: that is where lines are cut. -/
theorem lineFeed_notMem_of_mem_linesOf {s line : String} (h : line ∈ linesOf s) :
    '\n' ∉ line.toList := by
  obtain ⟨part, hpart, rfl⟩ := List.mem_map.1 h
  rw [String.toList_ofList]
  exact separator_notMem_of_mem_cut hpart

theorem unlines_eq_intercalate (lines : List String) :
    unlines lines = "\n".intercalate lines := by
  induction lines with
  | nil => rfl
  | cons line rest ih =>
    cases rest with
    | nil => simp [unlines, joinLines, joinWith]
    | cons next more =>
      rw [String.intercalate_cons_cons, ← ih, ← String.toList_inj]
      simp [unlines, joinLines, joinWith]

end Text

end FlowScript
