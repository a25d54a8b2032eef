import FlowScript.Json.Printer
import FlowScript.Json.Reader

/-!
# Strings in JSON text

A string that was written is read back, and passed over, whatever stands behind it. Both
readers go through the body of a string one written character at a time:

* an escape is a backslash and a few characters that are taken at once
  (`readCharsFrom_escape`, `skipStringFrom_escape`);
* every character is written as itself or as an escape of itself (`escapedChar_cases`).
-/

namespace FlowScript

namespace Json

/-! ### Escapes -/

theorem hexValue?_hexDigit : ∀ n < 16, hexValue? (some (hexDigit n)) = some n := by decide

/-- Four characters take at least four bytes. -/
theorem four_le_size (a b c d : Char) : 4 ≤ Source.size [some a, some b, some c, some d] := by
  have := a.utf8Size_pos
  have := b.utf8Size_pos
  have := c.utf8Size_pos
  have := d.utf8Size_pos
  simp only [Source.size, byteCount]
  omega

/-- Four hexadecimal digits are read as the number that they were written for. The controls below
the space, which alone are written so, are below 256. -/
theorem hexUnit_of_lt (n : Nat) (hn : n < 256) (rest : Source) :
    hexUnit (some '0' :: some '0' :: some (hexDigit (n / 16)) :: some (hexDigit (n % 16)) :: rest)
      = .ok n := by
  have hhigh := hexValue?_hexDigit (n / 16) (by omega)
  have hlow := hexValue?_hexDigit (n % 16) (by omega)
  have hzero : hexValue? (some '0') = some 0 := by decide
  have hsize := four_le_size '0' '0' (hexDigit (n / 16)) (hexDigit (n % 16))
  rw [hexUnit]
  simp only [List.take_succ_cons, List.take_zero, List.mapM_cons, List.mapM_nil, hhigh, hlow, hzero]
  rw [if_neg (by omega)]
  change Except.ok _ = _
  congr 1
  simp only [List.foldl_cons, List.foldl_nil]
  omega

/-- How a character is written: as itself, by a letter, or by its number. -/
theorem escapedChar_cases (c : Char) :
    (escapedChar c = [c] ∧ c ≠ '\x22' ∧ c ≠ '\\' ∧ 32 ≤ c.toNat) ∨
    (∃ letter, escapedChar c = ['\\', letter] ∧ letter ≠ 'u' ∧ shortEscape? letter = some c) ∨
    (escapedChar c = ['\\', 'u', '0', '0', hexDigit (c.toNat / 16), hexDigit (c.toNat % 16)] ∧
      c.toNat < 32) := by
  by_cases hshort : c ∈ ['\x22', '\\', '\x08', '\t', '\n', '\x0c', '\r']
  · -- the characters that have a letter
    refine .inr (.inl ?_)
    simp only [List.mem_cons, List.not_mem_nil, or_false] at hshort
    rcases hshort with rfl | rfl | rfl | rfl | rfl | rfl | rfl
    · exact ⟨'\x22', rfl, by decide, rfl⟩
    · exact ⟨'\\', rfl, by decide, rfl⟩
    · exact ⟨'b', rfl, by decide, rfl⟩
    · exact ⟨'t', rfl, by decide, rfl⟩
    · exact ⟨'n', rfl, by decide, rfl⟩
    · exact ⟨'f', rfl, by decide, rfl⟩
    · exact ⟨'r', rfl, by decide, rfl⟩
  · simp only [List.mem_cons, List.not_mem_nil, or_false, not_or] at hshort
    obtain ⟨hquote, hslash, hb, ht, hn, hf, hr⟩ := hshort
    rw [escapedChar, if_neg (by rwa [beq_iff_eq]), if_neg (by rwa [beq_iff_eq])]
    by_cases hlow : c.toNat < 32
    · rw [if_pos hlow, if_neg (by rwa [beq_iff_eq]), if_neg (by rwa [beq_iff_eq]),
        if_neg (by rwa [beq_iff_eq]), if_neg (by rwa [beq_iff_eq]), if_neg (by rwa [beq_iff_eq])]
      exact .inr (.inr ⟨rfl, hlow⟩)
    · rw [if_neg hlow]
      exact .inl ⟨rfl, hquote, hslash, by omega⟩

/-- The text of a string goes on behind its first character as that of the others does. -/
theorem stringBody_cons (c : Char) (cs : List Char) (rest : Source) :
    (stringBody (c :: cs)).map some ++ rest =
      (escapedChar c).map some ++ ((stringBody cs).map some ++ rest) := by
  simp [stringBody]

/-! ### Reading -/

/-- The characters that an escape has taken are stepped over. -/
theorem readCharsFrom_length (taken rest : Source) :
    readCharsFrom taken.length (taken ++ rest) = readCharsFrom 0 rest := by
  induction taken with
  | nil => rfl
  | cons x taken ih =>
    rw [List.cons_append, List.length_cons, readCharsFrom]
    exact ih

/-- An escape gives one character, and the characters that it takes are not looked at again. -/
theorem readCharsFrom_escape {c : Char} (taken rest : Source)
    (h : readEscape (taken ++ rest) = .ok (c, taken.length)) :
    readCharsFrom 0 (some '\\' :: (taken ++ rest)) =
      (readCharsFrom 0 rest).map fun (cs, after) => (c :: cs, after) := by
  rw [readCharsFrom, if_neg (by decide), if_pos rfl, h]
  change (readCharsFrom taken.length (taken ++ rest)).map _ = _
  rw [readCharsFrom_length]

/-- **Step.** A written character is read, and reading goes on behind it. -/
theorem readCharsFrom_escapedChar (c : Char) (rest : Source) :
    readCharsFrom 0 ((escapedChar c).map some ++ rest) =
      (readCharsFrom 0 rest).map fun (cs, after) => (c :: cs, after) := by
  rcases escapedChar_cases c with
    ⟨hc, hquote, hslash, hlow⟩ | ⟨letter, hc, hu, hletter⟩ | ⟨hc, hlow⟩
  · rw [hc]
    change readCharsFrom 0 (some c :: rest) = _
    rw [readCharsFrom, if_neg hquote, if_neg hslash, if_neg (by omega)]
  · rw [hc]
    refine readCharsFrom_escape [some letter] rest ?_
    change readEscape (some letter :: rest) = _
    rw [readEscape, if_neg (fun h => hu (Option.some.inj h)), Option.bind_some, hletter]
    rfl
  · rw [hc]
    refine readCharsFrom_escape
      [some 'u', some '0', some '0', some (hexDigit (c.toNat / 16)),
        some (hexDigit (c.toNat % 16))] rest ?_
    change readEscape (some 'u' :: some '0' :: some '0' :: some _ :: some _ :: rest) = _
    rw [readEscape, if_pos rfl, hexUnit_of_lt c.toNat (by omega)]
    have hsecond : (0xdc00 ≤ c.toNat && c.toNat ≤ 0xdfff) = false := by
      simp only [Bool.and_eq_false_iff, decide_eq_false_iff_not]
      omega
    have hfirst : (0xd800 ≤ c.toNat && c.toNat < 0xdc00) = false := by
      simp only [Bool.and_eq_false_iff, decide_eq_false_iff_not]
      omega
    simp only [hsecond, hfirst, Bool.false_eq_true, if_false, Char.ofNat_toNat]
    rfl

/-- **Strings are read back.** Each character is read from what it was written as, so the induction
is on the characters and not on the text. -/
theorem readCharsFrom_stringBody (cs : List Char) (rest : Source) :
    readCharsFrom 0 ((stringBody cs).map some ++ rest) = .ok (cs, rest) := by
  induction cs with
  | nil => rfl
  | cons c cs ih =>
    rw [stringBody_cons, readCharsFrom_escapedChar, ih]
    rfl

/-- A written string is read back. -/
theorem readString_stringBody (s : String) (rest : Source) :
    readString ((stringBody s.toList).map some ++ rest) = .ok (s, rest) := by
  rw [readString, readCharsFrom_stringBody]
  change Except.ok (String.ofList s.toList, rest) = _
  rw [String.ofList_toList]

/-! ### Passing over -/

/-- Characters that belong to an escape are passed over unseen. -/
theorem skipStringFrom_length (taken rest : Source) :
    skipStringFrom taken.length (taken ++ rest) = skipStringFrom 0 rest := by
  induction taken with
  | nil => rfl
  | cons x taken ih =>
    rw [List.cons_append, List.length_cons, skipStringFrom]
    exact ih

/-- An escape is passed over with the characters that it takes, so that an escaped quote does not
end the string. -/
theorem skipStringFrom_escape (taken rest : Source)
    (h : skipEscape (taken ++ rest) = .ok taken.length) :
    skipStringFrom 0 (some '\\' :: (taken ++ rest)) = skipStringFrom 0 rest := by
  rw [skipStringFrom, if_neg (by decide), if_pos rfl, h]
  exact skipStringFrom_length taken rest

/-- **Step.** A written character is passed over. -/
theorem skipStringFrom_escapedChar (c : Char) (rest : Source) :
    skipStringFrom 0 ((escapedChar c).map some ++ rest) = skipStringFrom 0 rest := by
  rcases escapedChar_cases c with
    ⟨hc, hquote, hslash, hlow⟩ | ⟨letter, hc, hu, hletter⟩ | ⟨hc, hlow⟩
  · rw [hc]
    change skipStringFrom 0 (some c :: rest) = _
    have hcontrol : ¬ ((some c).map fun c => decide (c.toNat < 32)) = some true := by
      simp only [Option.map_some, Option.some.injEq, decide_eq_true_eq]
      omega
    rw [skipStringFrom, if_neg (fun h => hquote (Option.some.inj h)),
      if_neg (fun h => hslash (Option.some.inj h)), if_neg hcontrol]
  · rw [hc]
    refine skipStringFrom_escape [some letter] rest ?_
    change skipEscape (some letter :: rest) = _
    rw [skipEscape, if_neg (fun h => hu (Option.some.inj h)), Option.bind_some, hletter]
    rfl
  · rw [hc]
    refine skipStringFrom_escape
      [some 'u', some '0', some '0', some (hexDigit (c.toNat / 16)),
        some (hexDigit (c.toNat % 16))] rest ?_
    change skipEscape (some 'u' :: some '0' :: some '0' :: some _ :: some _ :: rest) = _
    rw [skipEscape, if_pos rfl, hexUnit_of_lt c.toNat (by omega)]
    rfl

/-- A written string is passed over. -/
theorem skipStringFrom_stringBody (cs : List Char) (rest : Source) :
    skipStringFrom 0 ((stringBody cs).map some ++ rest) = .ok rest := by
  induction cs with
  | nil => rfl
  | cons c cs ih =>
    rw [stringBody_cons, skipStringFrom_escapedChar, ih]

end Json

end FlowScript
