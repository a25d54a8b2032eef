import FlowScript.Http.Percent
import FlowScript.Proofs.Text.Utf8

/-!
# Percent-encoding undone

Decoding gives back the bytes of a text that was encoded, whichever characters were kept
(`percentDecode_percentEncode`), unless the text had a percent sign with two hexadecimal digits
behind it already, which then cannot be told from a byte that was encoded. So texts without such
a sign are still different when they are encoded (`eq_of_percentEncode_eq`).
-/

namespace FlowScript

namespace Http

/-! ### Bytes -/

theorem hexDigitValue?_upperHexDigit : ∀ n < 16, hexDigitValue? (upperHexDigit n) = some n := by
  decide

/-- One byte is read back from its two digits, whatever follows. -/
theorem percentDecode_percentByte (byte : UInt8) (cs : List Char) :
    percentDecode (percentByte byte ++ cs) = byte :: percentDecode cs := by
  have hbyte : byte.toNat < 256 := byte.toNat_lt
  have hhigh := hexDigitValue?_upperHexDigit (byte.toNat / 16) (by omega)
  have hlow := hexDigitValue?_upperHexDigit (byte.toNat % 16) (by omega)
  have hvalue : byte.toNat / 16 * 16 + byte.toNat % 16 = byte.toNat := by omega
  change percentDecode ('%' :: _ :: _ :: cs) = _
  rw [percentDecode, hhigh, hlow]
  dsimp only
  rw [hvalue, UInt8.ofNat_toNat]

/-- So are all bytes of a character, of which the induction is on the number. -/
theorem percentDecode_flatMap_percentByte (bytes : List UInt8) (cs : List Char) :
    percentDecode (bytes.flatMap percentByte ++ cs) = bytes ++ percentDecode cs := by
  induction bytes with
  | nil => rfl
  | cons byte rest ih =>
    rw [List.flatMap_cons, List.append_assoc, percentDecode_percentByte, ih, List.cons_append]

/-! ### Characters -/

/-- Whether two hexadecimal digits stand first. -/
def startsWithByte : List Char → Bool
  | high :: low :: _ => (hexDigitValue? high).isSome && (hexDigitValue? low).isSome
  | _ => false

/-- Whether no percent sign has two hexadecimal digits behind it. -/
def isUnescaped : List Char → Bool
  | [] => true
  | c :: rest => !(c == '%' && startsWithByte rest) && isUnescaped rest

/-- A character is decoded as itself, unless it is a percent sign with a byte behind it. -/
theorem percentDecode_cons {c : Char} {cs : List Char}
    (h : (c == '%' && startsWithByte cs) = false) :
    percentDecode (c :: cs) = String.utf8EncodeChar c ++ percentDecode cs := by
  rw [percentDecode.eq_def (c :: cs)]
  split
  · next high low rest heq =>
    obtain ⟨rfl, rfl⟩ := List.cons.inj heq
    rw [beq_self_eq_true, Bool.true_and, startsWithByte] at h
    split
    · next hhigh hlow =>
      rw [hhigh, hlow] at h
      cases h
    · rfl
  · next heq =>
    obtain ⟨rfl, rfl⟩ := List.cons.inj heq
    rfl
  · next heq => cases heq

variable {keep : Char → Bool} {c : Char} {cs : List Char}

theorem percentEncode_cons (keep : Char → Bool) (c : Char) (cs : List Char) :
    percentEncode keep (c :: cs) =
      (if keep c then [c] else percentChar c) ++ percentEncode keep cs :=
  List.flatMap_cons

/-- What is encoded begins with a percent sign. -/
theorem exists_percentChar_eq_cons (c : Char) : ∃ rest, percentChar c = '%' :: rest := by
  have hne : String.utf8EncodeChar c ≠ [] := by
    intro hnil
    have hlength := String.length_utf8EncodeChar c
    rw [hnil] at hlength
    exact absurd hlength (Nat.ne_of_lt (Char.utf8Size_pos c))
  obtain ⟨byte, bytes, hbytes⟩ := List.exists_cons_of_ne_nil hne
  exact ⟨_, by rw [percentChar, hbytes, List.flatMap_cons]; rfl⟩

theorem startsWithByte_percent (cs : List Char) : startsWithByte ('%' :: cs) = false := by
  cases cs <;> rfl

/-- No byte comes to stand first by encoding. -/
theorem startsWithByte_of_percentEncode (h : startsWithByte (percentEncode keep cs) = true) :
    startsWithByte cs = true := by
  -- a character that is encoded brings a percent sign, which is no digit
  cases cs with
  | nil => cases h
  | cons c rest =>
    rw [percentEncode_cons] at h
    split at h
    · cases rest with
      | nil => cases h
      | cons d more =>
        rw [percentEncode_cons] at h
        split at h
        · exact h
        · obtain ⟨behind, hd⟩ := exists_percentChar_eq_cons d
          rw [hd] at h
          exact absurd (Bool.and_eq_true_iff.1 h).2 (by decide)
    · obtain ⟨behind, hc⟩ := exists_percentChar_eq_cons c
      rw [hc, List.cons_append, startsWithByte_percent] at h
      cases h

/-! ### Texts -/

/-- Decoding undoes encoding. -/
theorem percentDecode_percentEncode (keep : Char → Bool) (h : isUnescaped cs = true) :
    percentDecode (percentEncode keep cs) = Text.Utf8.encode cs := by
  induction cs with
  | nil => rfl
  | cons c rest ih =>
    rw [isUnescaped, Bool.and_eq_true, Bool.not_eq_true'] at h
    rw [percentEncode_cons, Text.Utf8.encode, List.flatMap_cons]
    split
    · have hkept : (c == '%' && startsWithByte (percentEncode keep rest)) = false := by
        refine Bool.eq_false_iff.2 fun hbyte => ?_
        rw [Bool.and_eq_true] at hbyte
        rw [hbyte.1, startsWithByte_of_percentEncode hbyte.2] at h
        exact Bool.noConfusion h.1
      rw [List.singleton_append, percentDecode_cons hkept, ih h.2]
      rfl
    · rw [percentChar, percentDecode_flatMap_percentByte, ih h.2]
      rfl

/-- Texts that differ still differ when they are encoded. -/
theorem eq_of_percentEncode_eq {a b : String} (ha : isUnescaped a.toList = true)
    (hb : isUnescaped b.toList = true)
    (h : percentEncode keep a.toList = percentEncode keep b.toList) : a = b := by
  have hbytes : Text.Utf8.encode a.toList = Text.Utf8.encode b.toList := by
    rw [← percentDecode_percentEncode keep ha, h, percentDecode_percentEncode keep hb]
  have htext : some a = some b := by
    rw [← Text.Utf8.strict?_encode a, hbytes, Text.Utf8.strict?_encode b]
  exact Option.some.inj htext

/-- A character that no encoded byte holds is there after encoding if it was there and is kept. -/
theorem mem_percentEncode_iff (hsign : c ≠ '%') (hdigit : hexDigitValue? c = none) :
    c ∈ percentEncode keep cs ↔ c ∈ cs ∧ keep c = true := by
  have hbyte (byte : UInt8) : c ∉ percentByte byte := by
    intro hmem
    have hlt : byte.toNat < 256 := byte.toNat_lt
    have hhigh := hexDigitValue?_upperHexDigit (byte.toNat / 16) (by omega)
    have hlow := hexDigitValue?_upperHexDigit (byte.toNat % 16) (by omega)
    rw [percentByte, List.mem_cons, List.mem_cons, List.mem_singleton] at hmem
    rcases hmem with rfl | rfl | rfl
    · exact hsign rfl
    · rw [hdigit] at hhigh
      cases hhigh
    · rw [hdigit] at hlow
      cases hlow
  have hchar (d : Char) : c ∈ (if keep d then [d] else percentChar d) ↔ c = d ∧ keep d = true := by
    split
    · next hkeep => rw [List.mem_singleton, and_iff_left hkeep]
    · next hkeep =>
      refine iff_of_false (fun hmem => ?_) fun hkept => hkeep hkept.2
      obtain ⟨byte, -, hmem⟩ := List.mem_flatMap.1 hmem
      exact hbyte byte hmem
  rw [percentEncode, List.mem_flatMap]
  constructor
  · rintro ⟨d, hd, hmem⟩
    obtain ⟨rfl, hkeep⟩ := (hchar d).1 hmem
    exact ⟨hd, hkeep⟩
  · rintro ⟨hc, hkeep⟩
    exact ⟨c, hc, (hchar c).2 ⟨rfl, hkeep⟩⟩

/-- A text from which something is taken out is shorter when it is encoded. -/
theorem eq_or_length_percentEncode_lt (keep : Char → Bool) {part whole : List Char}
    (h : part.Sublist whole) :
    part = whole ∨ (percentEncode keep part).length < (percentEncode keep whole).length := by
  have hpos (c : Char) : 0 < (if keep c then [c] else percentChar c).length := by
    split
    · exact Nat.one_pos
    · obtain ⟨rest, hc⟩ := exists_percentChar_eq_cons c
      rw [hc]
      exact Nat.succ_pos _
  induction h with
  | slnil => exact .inl rfl
  | @cons part whole c _ ih =>
    right
    have hle : (percentEncode keep part).length ≤ (percentEncode keep whole).length := by
      rcases ih with rfl | hlt
      · exact Nat.le_refl _
      · exact Nat.le_of_lt hlt
    rw [percentEncode_cons, List.length_append]
    exact Nat.lt_of_le_of_lt hle (Nat.lt_add_of_pos_left (hpos c))
  | @cons_cons part whole c _ ih =>
    rw [percentEncode_cons, percentEncode_cons, List.length_append, List.length_append]
    exact ih.imp (congrArg (c :: ·)) (Nat.add_lt_add_left · _)

end Http

end FlowScript
