import FlowScript.Script.Emission
import Mathlib.Logic.Basic

/-!
# Names of one identifier

An identifier keeps the letters and digits of ASCII and has an underscore for everything else, so
it has no other characters (`isLatin_or_eq_of_mem_identifierOf`). Two names have one identifier
exactly if they are alike place by place, but for characters that are not kept
(`identifierOf_eq_iff`). An underscore is not kept either: it only happens to stand for itself.
-/

namespace FlowScript

/-- Within `[A-Za-z0-9]`. -/
def IsLatin (c : Char) : Prop := 'A' ≤ c ∧ c ≤ 'Z' ∨ 'a' ≤ c ∧ c ≤ 'z' ∨ '0' ≤ c ∧ c ≤ '9'

/-- The test of the code and the intervals of letters and digits are the same. -/
theorem isAsciiAlphanumeric_iff {c : Char} : Text.isAsciiAlphanumeric c = true ↔ IsLatin c := by
  have hranges : Text.isAsciiAlphanumeric c =
      (decide ('A' ≤ c ∧ c ≤ 'Z') || 'a' ≤ c && c ≤ 'z' || '0' ≤ c && c ≤ '9') := rfl
  simp only [hranges, Bool.or_eq_true, Bool.and_eq_true, decide_eq_true_eq, IsLatin, or_assoc]

theorem not_isLatin_underscore : ¬ IsLatin '_' := by
  rw [← isAsciiAlphanumeric_iff]
  decide

theorem identifierChar_of_isLatin {c : Char} (h : IsLatin c) : identifierChar c = c :=
  if_pos (isAsciiAlphanumeric_iff.2 h)

theorem identifierChar_of_not {c : Char} (h : ¬ IsLatin c) : identifierChar c = '_' :=
  if_neg (mt isAsciiAlphanumeric_iff.1 h)

/-- Two characters become one exactly if they are one, or both become an underscore. An underscore
itself is of the second kind, so it is not told from what it stands for. -/
theorem identifierChar_eq_iff {c d : Char} :
    identifierChar c = identifierChar d ↔ c = d ∨ ¬ IsLatin c ∧ ¬ IsLatin d := by
  constructor
  · intro h
    by_cases hc : IsLatin c
    · rw [identifierChar_of_isLatin hc] at h
      by_cases hd : IsLatin d
      · rw [identifierChar_of_isLatin hd] at h
        exact .inl h
      · rw [identifierChar_of_not hd] at h
        exact absurd (h ▸ hc) not_isLatin_underscore
    · rw [identifierChar_of_not hc] at h
      by_cases hd : IsLatin d
      · rw [identifierChar_of_isLatin hd] at h
        exact absurd (h ▸ hd) not_isLatin_underscore
      · exact .inr ⟨hc, hd⟩
  · rintro (rfl | ⟨hc, hd⟩)
    · rfl
    · rw [identifierChar_of_not hc, identifierChar_of_not hd]

/-- **Names of one identifier** have one length and agree wherever one of them has a letter or a
digit. Characters are replaced one by one, so places can be compared. -/
theorem identifierOf_eq_iff {a b : String} :
    identifierOf a = identifierOf b ↔
      a.toList.length = b.toList.length ∧
        ∀ (i : Nat) (c d : Char), a.toList[i]? = some c → b.toList[i]? = some d →
          c = d ∨ ¬ IsLatin c ∧ ¬ IsLatin d := by
  simp only [identifierOf, ← identifierChar_eq_iff]
  rw [String.ofList_inj]
  constructor
  · intro h
    refine ⟨by simpa using congrArg List.length h, fun i c d hc hd => ?_⟩
    have hi := congrArg (·[i]?) h
    simpa [hc, hd] using hi
  · rintro ⟨hlength, hchars⟩
    refine List.ext_getElem (by simpa using hlength) fun i ha hb => ?_
    rw [List.getElem_map, List.getElem_map]
    rw [List.length_map] at ha hb
    exact hchars i _ _ (List.getElem?_eq_getElem ha) (List.getElem?_eq_getElem hb)

/-- An identifier has no other characters than letters, digits and underscores. It may still begin
with a digit, or be empty. -/
theorem isLatin_or_eq_of_mem_identifierOf {name : String} {c : Char}
    (h : c ∈ (identifierOf name).toList) : IsLatin c ∨ c = '_' := by
  rw [identifierOf, String.toList_ofList] at h
  obtain ⟨d, -, rfl⟩ := List.mem_map.1 h
  by_cases hd : IsLatin d
  · exact .inl ((identifierChar_of_isLatin hd).symm ▸ hd)
  · exact .inr (identifierChar_of_not hd)

end FlowScript
