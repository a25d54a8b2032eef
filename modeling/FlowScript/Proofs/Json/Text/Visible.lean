import FlowScript.Proofs.Json.Parts
import FlowScript.Proofs.Json.Text.NumberForm
import FlowScript.Proofs.Json.Text.Strings
import FlowScript.Proofs.Text.Lines

/-!
# JSON text is one line

A string escapes the characters below the space, and nothing else in the text of a value has
any. So the text of a value has none (`Value.visible_chars`), whatever strings are in it, and is
one line (`Value.linesOf_text`).
-/

namespace FlowScript

/-- Without characters below the space. -/
def Visible (cs : List Char) : Prop := ∀ c ∈ cs, 32 ≤ c.toNat

namespace Visible

variable {c : Char} {cs ds : List Char}

theorem nil : Visible [] := List.forall_mem_nil _

theorem cons_iff : Visible (c :: cs) ↔ 32 ≤ c.toNat ∧ Visible cs := List.forall_mem_cons

theorem append_iff : Visible (cs ++ ds) ↔ Visible cs ∧ Visible ds := List.forall_mem_append

/-- A line feed is one of the characters that a visible text lacks, so nothing visible goes over a
line. -/
theorem lineFeed_notMem (h : Visible cs) : '\n' ∉ cs := fun hmem => absurd (h _ hmem) (by decide)

/-- A visible text is its own only line. This is the form in which the other modules use the
property: a line of a program that is made of visible texts stays one line. -/
theorem linesOf {s : String} (h : Visible s.toList) : Text.linesOf s = [s] := by
  rw [Text.linesOf, Text.cutLines, Text.cut_of_notMem h.lineFeed_notMem, List.map_singleton,
    String.ofList_toList]

end Visible

/-! ### Numbers -/

/-- Digits lie well above the space, as do the other characters of a number; the next lemmas follow
the form of a numeral from here on. -/
theorem Digits.visible {cs : List Char} (h : Digits cs) : Visible cs := by
  intro c hc
  have hdigit := h.all c hc
  rw [Char.isDigit, Bool.and_eq_true, decide_eq_true_eq] at hdigit
  exact Nat.le_trans (by decide) (UInt32.le_iff_toNat_le.1 hdigit.1)

namespace Json

theorem Decimals.visible {cs : List Char} (h : Decimals cs) : Visible cs := by
  cases h with
  | absent => exact Visible.nil
  | present h => exact Visible.cons_iff.2 ⟨by decide, h.visible⟩

/-- An exponent is its letter, a sign and digits, and each of the two signs is checked by itself. -/
theorem Exponent.visible {cs : List Char} (h : Exponent cs) : Visible cs := by
  cases h with
  | absent => exact Visible.nil
  | present hsign h =>
    refine Visible.cons_iff.2 ⟨by decide, Visible.cons_iff.2 ⟨?_, h.visible⟩⟩
    rcases hsign with rfl | rfl <;> decide

/-- A numeral is put together from visible pieces: whole digits, decimals and an exponent. -/
theorem Numeral.visible {cs : List Char} (h : Numeral cs) : Visible cs := by
  cases h with
  | mk hwhole _ hdecimals hexponent =>
    exact Visible.append_iff.2
      ⟨Visible.append_iff.2 ⟨hwhole.visible, hdecimals.visible⟩, hexponent.visible⟩

/-- Every number is written as a numeral, with a minus sign or without, integers and reals alike. -/
theorem Number.visible_text (n : Number) : Visible n.text := by
  obtain ⟨cs, hcs, htext | htext⟩ := n.text_form
  · exact htext ▸ hcs.visible
  · exact htext ▸ Visible.cons_iff.2 ⟨by decide, hcs.visible⟩

/-! ### Strings -/

/-- A character below the space is never written as itself: it becomes an escape, whose characters
are visible. There are 32 of these characters, so they are tried out; the others are written as
themselves or behind a backslash. -/
theorem visible_escapedChar (c : Char) : Visible (escapedChar c) := by
  by_cases hlow : c.toNat < 32
  · have hall : ∀ n < 32, (escapedChar (Char.ofNat n)).all (fun d => 32 ≤ d.toNat) = true := by
      decide
    have hescaped := List.all_eq_true.1 (hall c.toNat hlow)
    rw [Char.ofNat_toNat] at hescaped
    exact fun d hd => of_decide_eq_true (hescaped d hd)
  · rw [escapedChar]
    split
    · simp [Visible]
    · split
      · simp [Visible]
      · exact Visible.cons_iff.2 ⟨Nat.le_of_not_lt hlow, Visible.nil⟩

/-- So a string is visible with its quotes, whatever its characters are. -/
theorem visible_stringText (s : String) : Visible (stringText s) := by
  have hbody : Visible (s.toList.flatMap escapedChar) :=
    List.forall_mem_flatMap.2 fun c _ => visible_escapedChar c
  exact Visible.cons_iff.2 ⟨by decide, Visible.append_iff.2 ⟨hbody, by simp [Visible]⟩⟩

/-! ### Values -/

/-- A member is its key as a string, a colon and its value. The character in front is the bracket or
the comma that the member stands behind. -/
theorem visible_member {key : String} {v : Value} (h : Visible v.chars) {opening : Char}
    (hopening : 32 ≤ opening.toNat) : Visible (opening :: stringText key ++ ':' :: v.chars) :=
  Visible.append_iff.2 ⟨Visible.cons_iff.2 ⟨hopening, visible_stringText key⟩,
    Visible.cons_iff.2 ⟨by decide, h⟩⟩

/-- The items behind the first, each behind a comma, and the closing bracket. The induction is on
the items, as the text is. -/
theorem visible_itemsTail {items : List Value} (h : ∀ v ∈ items, Visible v.chars) :
    Visible (itemsTail items) := by
  induction items with
  | nil => simp [itemsTail, Visible]
  | cons v items ih =>
    obtain ⟨hfirst, hrest⟩ := List.forall_mem_cons.1 h
    rw [itemsTail]
    exact Visible.append_iff.2 ⟨Visible.cons_iff.2 ⟨by decide, hfirst⟩, ih hrest⟩

/-- The members behind the first, like the items behind the first. -/
theorem visible_membersTail {members : List (String × Value)}
    (h : ∀ member ∈ members, Visible member.2.chars) : Visible (membersTail members) := by
  induction members with
  | nil => simp [membersTail, Visible]
  | cons member members ih =>
    obtain ⟨hfirst, hrest⟩ := List.forall_mem_cons.1 h
    rw [membersTail]
    exact Visible.append_iff.2 ⟨visible_member hfirst (by decide), ih hrest⟩

/-- **One line.** The text of a value is visible, if only because its strings are: numbers, words
and brackets have no character below the space to begin with. The induction is over the parts, so
that items and members are known to be visible when their brackets are put around them. -/
theorem Value.visible_chars (v : Value) : Visible v.chars := by
  induction v using Value.fromParts with
  | scalar v hv =>
    cases v with
    | null => simp [chars, Visible]
    | bool b => cases b <;> simp [chars, Visible]
    | num n => exact n.visible_text
    | str s => exact visible_stringText s
    | arr items => exact hv.elim
    | obj members => exact hv.elim
  | arr items ih =>
    cases items with
    | nil => simp [chars, Visible]
    | cons v items =>
      obtain ⟨hfirst, hrest⟩ := List.forall_mem_cons.1 ih
      rw [chars]
      exact Visible.append_iff.2
        ⟨Visible.cons_iff.2 ⟨by decide, hfirst⟩, visible_itemsTail hrest⟩
  | obj members ih =>
    cases members with
    | nil => simp [chars, Visible]
    | cons member members =>
      obtain ⟨hfirst, hrest⟩ := List.forall_mem_cons.1 ih
      rw [chars]
      exact Visible.append_iff.2 ⟨visible_member hfirst (by decide), visible_membersTail hrest⟩

theorem Value.visible_text (v : Value) : Visible v.text.toList := by
  rw [text, String.toList_ofList]
  exact v.visible_chars

/-- The text of a value is a line by itself, which is why a value can be written into a line of a
program without regard to what is in it. -/
theorem Value.linesOf_text (v : Value) : Text.linesOf v.text = [v.text] := v.visible_text.linesOf

end Json

end FlowScript
