import FlowScript.Json.Printer
import FlowScript.Json.Reader
import Mathlib.Data.List.TakeWhile

/-!
# Numbers in JSON text

A number has no closing mark: it ends where something stands that cannot go on with it (`Closes`).
So for each part of the number readers, from the exponent outwards, it is proved that what is read
from a text is read also when there is such an end behind it (`Local`).

The digits of an integer are read back (`Number.readsBack_int`). For a real number that is
the property `Number.ReadsBack`.
-/

namespace FlowScript

namespace Json

/-! ### What ends a number -/

/-- What may stand behind a value: nothing that a number could go on with. -/
def Closes (rest : Source) : Prop :=
  ∀ x ∈ rest.head?, isDigit x = false ∧ x ≠ some '.' ∧ x ≠ some 'e' ∧ x ≠ some 'E'

theorem closes_nil : Closes [] := fun _ h => nomatch h

theorem closes_cons {x : Option Char}
    (h : isDigit x = false ∧ x ≠ some '.' ∧ x ≠ some 'e' ∧ x ≠ some 'E') (rest : Source) :
    Closes (x :: rest) := by
  intro y hy
  rw [← Option.some.inj hy]
  exact h

theorem Closes.cons_ne {x : Option Char} {rest : Source} (h : Closes (x :: rest)) :
    isDigit x = false ∧ x ≠ some '.' ∧ x ≠ some 'e' ∧ x ≠ some 'E' :=
  h x rfl

/-- What does not begin with a mark of a number does not do so with a rest behind it. -/
theorem Closes.head?_append_ne {rest source : Source} {c : Char} (h : Closes rest)
    (hc : c = '.' ∨ c = 'e' ∨ c = 'E') (hsource : source.head? ≠ some (some c)) :
    (source ++ rest).head? ≠ some (some c) := by
  cases source with
  | cons x source => exact hsource
  | nil =>
    cases rest with
    | nil => exact hsource
    | cons x rest =>
      obtain ⟨-, hdot, he, hE⟩ := h.cons_ne
      intro hx
      have hx : x = some c := Option.some.inj hx
      rcases hc with rfl | rfl | rfl
      · exact hdot hx
      · exact he hx
      · exact hE hx

/-- A run of digits ends where the rest begins. -/
theorem Closes.isDigit_head {rest : Source} (h : Closes rest) :
    rest.head?.any isDigit = false := by
  cases rest with
  | nil => rfl
  | cons x rest => exact h.cons_ne.1

theorem head_any_append (source : Source) {rest : Source} (h : Closes rest) :
    (source ++ rest).head?.any isDigit = source.head?.any isDigit := by
  cases source with
  | nil => exact h.isDigit_head
  | cons x source => rfl

/-- The digits at the front of a text stay the same when a rest is put behind it. Without the
condition on the rest, a text of digits only would go on in it. -/
theorem takeWhile_isDigit_append (source : Source) {rest : Source} (h : Closes rest) :
    (source ++ rest).takeWhile isDigit = source.takeWhile isDigit := by
  induction source with
  | nil =>
    cases rest with
    | nil => rfl
    | cons x rest => exact List.takeWhile_cons_of_neg (by rw [h.cons_ne.1]; decide)
  | cons x source ih => rw [List.cons_append, List.takeWhile_cons, List.takeWhile_cons, ih]

/-- And what is behind them is what was there, with the rest behind it. -/
theorem dropWhile_isDigit_append (source : Source) {rest : Source} (h : Closes rest) :
    (source ++ rest).dropWhile isDigit = source.dropWhile isDigit ++ rest := by
  induction source with
  | nil =>
    cases rest with
    | nil => rfl
    | cons x rest => exact List.dropWhile_cons_of_neg (by rw [h.cons_ne.1]; decide)
  | cons x source ih =>
    rw [List.cons_append, List.dropWhile_cons, List.dropWhile_cons, ih]
    split <;> rfl

/-! ### What is read stays read -/

/-- Reading is not disturbed by what stands behind the end of a value. -/
def Local (reader : Reader Number) : Prop :=
  ∀ source n left, reader source = .ok (n, left) →
    ∀ rest, Closes rest → reader (source ++ rest) = .ok (n, left ++ rest)

/-- The last step of every number with a point or an exponent looks at nothing that follows. So what
it gives, it gives before any rest. -/
theorem signedReal_eq_ok {negative : Bool} {magnitude : Option Binary64} {source left : Source}
    {n : Number} (h : signedReal negative magnitude source = .ok (n, left)) :
    left = source ∧ ∀ rest, signedReal negative magnitude rest = .ok (n, rest) := by
  unfold signedReal at h ⊢
  dsimp only at h ⊢
  split at h
  · obtain ⟨rfl, rfl⟩ := Prod.mk.inj (Except.ok.inj h)
    exact ⟨rfl, fun _ => rfl⟩
  · cases h

/-- The same for integers, which become real numbers where they leave the 64 bits or are a negative
zero. -/
theorem readWhole_eq_ok {negative : Bool} {significand : Nat} {source left : Source} {n : Number}
    (h : readWhole negative significand source = .ok (n, left)) :
    left = source ∧ ∀ rest, readWhole negative significand rest = .ok (n, rest) := by
  unfold readWhole at h ⊢
  dsimp only at h ⊢
  split at h
  · split at h
    · next hzero =>
      obtain ⟨rfl, hread⟩ := signedReal_eq_ok h
      exact ⟨rfl, fun rest => by rw [if_pos hzero, hread]⟩
    · next hzero =>
      obtain ⟨rfl, rfl⟩ := Prod.mk.inj (Except.ok.inj h)
      exact ⟨rfl, fun rest => by rw [if_neg hzero]⟩
  · exact signedReal_eq_ok h

/-- The digits of an exponent are read up to the rest, whether the exponent turns out too large or
not. -/
theorem readExponentDigits_append (exponent : Nat) (source : Source) {rest : Source}
    (hrest : Closes rest) :
    readExponentDigits exponent (source ++ rest) =
      match readExponentDigits exponent source with
      | .ok (k, left) => .ok (k, left ++ rest)
      | .error left => .error (left ++ rest) := by
  induction source generalizing exponent with
  | nil =>
    cases rest with
    | nil => rfl
    | cons x rest =>
      have hx : ¬ isDigit x = true := by rw [hrest.cons_ne.1]; decide
      change readExponentDigits exponent (x :: rest) = .ok (exponent, x :: rest)
      rw [readExponentDigits, if_neg hx]
  | cons x source ih =>
    rw [List.cons_append, readExponentDigits, readExponentDigits]
    by_cases hx : isDigit x = true
    · rw [if_pos hx, if_pos hx]
      dsimp only
      by_cases hbig : 2147483647 < exponent * 10 + digitValue x
      · rw [if_pos hbig, if_pos hbig]
      · rw [if_neg hbig, if_neg hbig]
        exact ih _
    · rw [if_neg hx, if_neg hx]
      rfl

theorem exponentSign_append {source : Source} (h : source ≠ []) (rest : Source) :
    exponentSign (source ++ rest) = ((exponentSign source).1, (exponentSign source).2 ++ rest) := by
  cases source with
  | nil => exact absurd rfl h
  | cons x source =>
    rw [List.cons_append]
    by_cases hminus : x = some '-'
    · rw [hminus]
      rfl
    by_cases hplus : x = some '+'
    · rw [hplus]
      rfl
    have hsign : ∀ after, exponentSign (x :: after) = (false, x :: after) := by
      intro after
      unfold exponentSign
      split
      · next heq => exact absurd (List.cons.inj heq).1 hminus
      · next heq => exact absurd (List.cons.inj heq).1 hplus
      · rfl
    rw [hsign, hsign]
    rfl

/-- Of an exponent what follows its digits matters only in so far as it is no digit. -/
theorem readExponent_local (negative : Bool) (significand : Nat) (start : Int) :
    Local (readExponent negative significand start) := by
  intro source n left h rest hrest
  have hsource : source ≠ [] := by
    rintro rfl
    cases h
  cases hsign : exponentSign source with
  | mk negativeExponent digits =>
  rw [readExponent, hsign] at h
  cases digits with
  | nil => cases h
  | cons x digits =>
    dsimp only at h
    by_cases hx : isDigit x = true
    · rw [if_pos hx] at h
      rw [readExponent, exponentSign_append hsource, hsign]
      dsimp only [List.cons_append]
      rw [if_pos hx, readExponentDigits_append _ _ hrest]
      cases hdigits : readExponentDigits (digitValue x) digits with
      | ok result =>
        rw [hdigits] at h
        obtain ⟨rfl, hread⟩ := signedReal_eq_ok h
        exact hread _
      | error behind =>
        rw [hdigits] at h
        dsimp only at h ⊢
        -- an exponent beyond 32 bits still gives zero, behind all of its digits
        split at h
        · cases h
        next hzero =>
        obtain ⟨rfl, hread⟩ := signedReal_eq_ok h
        rw [if_neg hzero, dropWhile_isDigit_append _ hrest]
        exact hread _
    · rw [if_neg hx] at h
      cases h

/-! ### Behind the digits

The first character behind digits tells how a number goes on. -/

/-- An exponent follows, behind its letter, or the number ends. -/
theorem afterDigits_cases (source : Source) :
    (∃ after, source = some 'e' :: after ∨ source = some 'E' :: after) ∨
      source.head? ≠ some (some 'e') ∧ source.head? ≠ some (some 'E') := by
  cases source with
  | nil => exact .inr ⟨nofun, nofun⟩
  | cons x after =>
    by_cases he : x = some 'e'
    · exact .inl ⟨after, .inl (by rw [he])⟩
    by_cases hE : x = some 'E'
    · exact .inl ⟨after, .inr (by rw [hE])⟩
    exact .inr ⟨fun h => he (Option.some.inj h), fun h => hE (Option.some.inj h)⟩

theorem readAfterDigits_of_ne (negative : Bool) (significand : Nat) (exponent : Int)
    {source : Source} (he : source.head? ≠ some (some 'e')) (hE : source.head? ≠ some (some 'E')) :
    readAfterDigits negative significand exponent source =
      signedReal negative (Binary64.scaled significand exponent) source := by
  unfold readAfterDigits
  split
  · exact absurd rfl he
  · exact absurd rfl hE
  · rfl

/-- Behind the digits stands an exponent or nothing, and a rest that closes the number does not look
like an exponent. -/
theorem readAfterDigits_local (negative : Bool) (significand : Nat) (exponent : Int) :
    Local (readAfterDigits negative significand exponent) := by
  intro source n left h rest hrest
  -- without an exponent the number ends here, and the rest must not supply one
  rcases afterDigits_cases source with ⟨after, rfl | rfl⟩ | ⟨he, hE⟩
  · exact readExponent_local _ _ _ after n left h rest hrest
  · exact readExponent_local _ _ _ after n left h rest hrest
  · rw [readAfterDigits_of_ne _ _ _ he hE] at h
    obtain ⟨rfl, hread⟩ := signedReal_eq_ok h
    rw [readAfterDigits_of_ne _ _ _ (hrest.head?_append_ne (.inr (.inl rfl)) he)
      (hrest.head?_append_ne (.inr (.inr rfl)) hE)]
    exact hread _

/-- There must be a decimal behind the point. If there is, it stands in the text and not in the
rest. -/
theorem readDecimals_local (negative : Bool) (significand : Nat) (exponent : Int) :
    Local (readDecimals negative significand exponent) := by
  intro source n left h rest hrest
  unfold readDecimals at h ⊢
  dsimp only at h ⊢
  rw [takeWhile_isDigit_append _ hrest, dropWhile_isDigit_append _ hrest]
  split at h
  · split at h <;> cases h
  · next hdigits =>
    rw [if_neg hdigits]
    exact readAfterDigits_local _ _ _ _ _ _ h rest hrest

/-! ### Whole numbers -/

/-- How a number goes on behind its first digits: with decimals, with an exponent, or
not at all. -/
theorem fraction_cases (source : Source) :
    (∃ after, source = some '.' :: after) ∨
    (∃ after, source = some 'e' :: after ∨ source = some 'E' :: after) ∨
    source.head? ≠ some (some '.') ∧ source.head? ≠ some (some 'e') ∧
      source.head? ≠ some (some 'E') := by
  by_cases hdot : source.head? = some (some '.')
  · exact .inl (List.head?_eq_some_iff.1 hdot)
  rcases afterDigits_cases source with hafter | hne
  · exact .inr (.inl hafter)
  · exact .inr (.inr ⟨hdot, hne⟩)

theorem readFraction_exponent (negative : Bool) (gathered : Gathered) {c : Char}
    (hc : c = 'e' ∨ c = 'E') (after : Source) :
    readFraction negative gathered (some c :: after) =
      readExponent negative gathered.significand gathered.dropped after := by
  rcases hc with rfl | rfl <;> simp [readFraction, readAfterDigits]

theorem readFraction_of_ne (negative : Bool) (gathered : Gathered) {source : Source}
    (hdot : source.head? ≠ some (some '.')) (he : source.head? ≠ some (some 'e'))
    (hE : source.head? ≠ some (some 'E')) :
    readFraction negative gathered source =
      if gathered.dropped = 0 then readWhole negative gathered.significand source
      else signedReal negative (Binary64.scaled gathered.significand gathered.dropped) source := by
  unfold readFraction
  split
  · exact absurd rfl hdot
  · rw [readAfterDigits_of_ne _ _ _ he hE, bne_iff_ne.2 he, bne_iff_ne.2 hE]
    simp

/-- **From the point on**, the reading of a number does not depend on what closes it: the cases are
a point, the mark of an exponent, and neither. -/
theorem readFraction_local (negative : Bool) (gathered : Gathered) :
    Local (readFraction negative gathered) := by
  intro source n left h rest hrest
  rcases fraction_cases source with ⟨after, rfl⟩ | ⟨after, hafter⟩ | ⟨hdot, he, hE⟩
  · exact readDecimals_local _ _ _ after n left h rest hrest
  · obtain ⟨c, hc, rfl⟩ : ∃ c, (c = 'e' ∨ c = 'E') ∧ source = some c :: after := by
      rcases hafter with rfl | rfl
      · exact ⟨_, .inl rfl, rfl⟩
      · exact ⟨_, .inr rfl, rfl⟩
    rw [readFraction_exponent _ _ hc] at h
    rw [List.cons_append, readFraction_exponent _ _ hc]
    exact readExponent_local _ _ _ after n left h rest hrest
  · rw [readFraction_of_ne _ _ hdot he hE] at h
    rw [readFraction_of_ne _ _ (hrest.head?_append_ne (.inl rfl) hdot)
      (hrest.head?_append_ne (.inr (.inl rfl)) he) (hrest.head?_append_ne (.inr (.inr rfl)) hE)]
    split at h
    · next hdropped =>
      obtain ⟨rfl, hread⟩ := readWhole_eq_ok h
      rw [if_pos hdropped]
      exact hread _
    · next hdropped =>
      obtain ⟨rfl, hread⟩ := signedReal_eq_ok h
      rw [if_neg hdropped]
      exact hread _

/-! ### Numbers -/

/-- A number that is read begins with a digit, which is no zero before another digit. -/
theorem readNumber_eq_ok {negative : Bool} {source left : Source} {n : Number}
    (h : readNumber negative source = .ok (n, left)) :
    ∃ x after, source = x :: after ∧ ¬ (x = some '0' && after.head?.any isDigit) = true ∧
      isDigit x = true ∧
      readFraction negative (gather 0 (source.takeWhile isDigit)) (source.dropWhile isDigit) =
        .ok (n, left) := by
  cases source with
  | nil => cases h
  | cons x after =>
    unfold readNumber at h
    dsimp only at h
    split at h
    · cases h
    next hzero =>
    split at h
    · cases h
    next hdigit =>
    exact ⟨x, after, rfl, hzero, by simpa using hdigit, h⟩

/-- A number begins with its digits, unless a zero stands before another one. -/
theorem readNumber_of_digit (negative : Bool) {x : Option Char} {after : Source}
    (hzero : ¬ (x = some '0' && after.head?.any isDigit) = true) (hdigit : isDigit x = true) :
    readNumber negative (x :: after) =
      readFraction negative (gather 0 ((x :: after).takeWhile isDigit))
        ((x :: after).dropWhile isDigit) := by
  unfold readNumber
  dsimp only
  rw [if_neg hzero, if_neg (by rw [hdigit]; decide)]

/-- **Locality.** A number is read alike whatever stands behind its end. -/
theorem readNumber_local (negative : Bool) : Local (readNumber negative) := by
  intro source n left h rest hrest
  obtain ⟨x, after, rfl, hzero, hdigit, hread⟩ := readNumber_eq_ok h
  rw [List.cons_append, readNumber_of_digit negative (by rwa [head_any_append _ hrest]) hdigit,
    ← List.cons_append, takeWhile_isDigit_append _ hrest, dropWhile_isDigit_append _ hrest]
  exact readFraction_local _ _ _ _ _ hread rest hrest

/-! ### Integers -/

/-- The decimal digits of a natural number are digits to the reader. -/
theorem isDigit_of_mem_digits {n : Nat} {x : Option Char} (h : x ∈ (Nat.toDigits 10 n).map some) :
    isDigit x = true := by
  obtain ⟨c, hc, rfl⟩ := List.mem_map.1 h
  exact Nat.isDigit_of_mem_toDigits (by decide) (by decide) hc

/-- Further digits do not make a number smaller, so one that is within the bound at its end was
within it all the way. -/
theorem le_ofDigitChars (digits : List Char) (n : Nat) : n ≤ Nat.ofDigitChars 10 digits n := by
  induction digits generalizing n with
  | nil => exact Nat.le_refl n
  | cons c digits ih =>
    rw [Nat.ofDigitChars_cons]
    exact Nat.le_trans (by omega) (ih _)

/-- Digits whose value fits 64 bits are all gathered. -/
theorem foldl_push_digits (digits : List Char) (n taken : Nat)
    (h : Nat.ofDigitChars 10 digits n < 18446744073709551616) :
    (digits.map some).foldl (fun (g : Gathered) d => g.push (digitValue d)) ⟨n, taken, 0⟩ =
      ⟨Nat.ofDigitChars 10 digits n, taken + digits.length, 0⟩ := by
  induction digits generalizing n taken with
  | nil => rfl
  | cons c digits ih =>
    rw [Nat.ofDigitChars_cons] at h ⊢
    have hvalue : n * 10 + digitValue (some c) = 10 * n + (c.toNat - '0'.toNat) := by
      rw [Nat.mul_comm]
      rfl
    have hfits := Nat.lt_of_le_of_lt (le_ofDigitChars digits _) h
    have hpush : Gathered.push ⟨n, taken, 0⟩ (digitValue (some c)) =
        ⟨10 * n + (c.toNat - '0'.toNat), taken + 1, 0⟩ := by
      unfold Gathered.push
      dsimp only
      rw [hvalue, if_pos (by simpa using hfits)]
    rw [List.map_cons, List.foldl_cons, hpush, ih _ _ h, List.length_cons, Nat.add_assoc,
      Nat.add_comm 1]

/-- Only zero begins with a zero. -/
theorem head?_toDigits_ne (n : Nat) (h : 0 < n) : (Nat.toDigits 10 n).head? ≠ some '0' := by
  induction n using Nat.strongRecOn with
  | ind n ih =>
    by_cases hn : n < 10
    · have hdigit : ∀ k < 10, 0 < k → ([Nat.digitChar k] : List Char).head? ≠ some '0' := by decide
      rw [Nat.toDigits_of_lt_base hn]
      exact hdigit n hn h
    · have hleading := ih (n / 10) (by omega) (by omega)
      obtain ⟨c, digits, hdigits⟩ :=
        List.exists_cons_of_ne_nil (Nat.toDigits_ne_nil (n := n / 10) (b := 10))
      rw [hdigits] at hleading
      rw [Nat.toDigits_of_base_le (by decide) (by omega), hdigits]
      exact hleading

/-- The digits of a natural number are read as that number. -/
theorem readNumber_digits (negative : Bool) (n : Nat) (h : n < 18446744073709551616) :
    readNumber negative ((Nat.toDigits 10 n).map some) = readWhole negative n [] := by
  obtain ⟨c, digits, hdigits⟩ := List.exists_cons_of_ne_nil (Nat.toDigits_ne_nil (n := n) (b := 10))
  have hall : ∀ x ∈ (Nat.toDigits 10 n).map some, isDigit x = true :=
    fun x hx => isDigit_of_mem_digits hx
  have htake : ((Nat.toDigits 10 n).map some).takeWhile isDigit = (Nat.toDigits 10 n).map some := by
    rwa [List.takeWhile_eq_self_iff]
  have hdrop : ((Nat.toDigits 10 n).map some).dropWhile isDigit = [] := by
    rwa [List.dropWhile_eq_nil_iff]
  have hgather :
      gather 0 ((Nat.toDigits 10 n).map some) = ⟨n, 0 + (Nat.toDigits 10 n).length, 0⟩ := by
    have := foldl_push_digits (Nat.toDigits 10 n) 0 0 (by rwa [Nat.ofDigitChars_ten_toDigits])
    rwa [Nat.ofDigitChars_ten_toDigits] at this
  have hzero : ¬ (some c = some '0' && (digits.map some).head?.any isDigit) = true := by
    -- only zero begins with a zero, and it has no further digit
    rcases Nat.eq_zero_or_pos n with rfl | hpos
    · have hnil : digits = [] := (List.cons.inj hdigits).2.symm
      rw [hnil]
      simp
    · have hhead := head?_toDigits_ne n hpos
      rw [hdigits] at hhead
      have hc : c ≠ '0' := fun hc => hhead (by rw [hc]; rfl)
      simp [hc]
  rw [hdigits, List.map_cons, readNumber_of_digit _ hzero (hall _ (by rw [hdigits]; simp)),
    ← List.map_cons, ← hdigits, htake, hdrop, hgather]
  rfl

/-! ### Numbers among the scalars -/

theorem isDigit_ne {x : Option Char} (h : isDigit x = true) :
    x ≠ some 'n' ∧ x ≠ some 't' ∧ x ≠ some 'f' ∧ x ≠ some '-' := by
  refine ⟨?_, ?_, ?_, ?_⟩ <;> rintro rfl <;> revert h <;> decide

/-- A minus sign decides that a number follows, without being part of it. -/
theorem readScalar_minus (rest : Source) :
    readScalar (some '-' :: rest) = (readNumber true rest).map fun (n, rest) => (.num n, rest) := by
  rw [readScalar, if_neg (by decide), if_neg (by decide), if_neg (by decide), if_pos rfl]

/-- A digit decides that a number follows, and is its first digit. -/
theorem readScalar_digit {x : Option Char} (h : isDigit x = true) (rest : Source) :
    readScalar (x :: rest) =
      (readNumber false (x :: rest)).map fun (n, rest) => (.num n, rest) := by
  obtain ⟨hn, ht, hf, hminus⟩ := isDigit_ne h
  rw [readScalar, if_neg hn, if_neg ht, if_neg hf, if_neg hminus, if_pos h]

/-- A text that reads as a number begins with its sign or its first digit. -/
theorem readScalar_eq_num {source left : Source} {n : Number}
    (h : readScalar source = .ok (.num n, left)) :
    (∃ after, source = some '-' :: after ∧ readNumber true after = .ok (n, left)) ∨
    (∃ x after, source = x :: after ∧ isDigit x = true ∧
      readNumber false (x :: after) = .ok (n, left)) := by
  have hnum : ∀ {result : Except Fault (Number × Source)},
      (result.map fun (n, rest) => (Value.num n, rest)) = .ok (.num n, left) →
        result = .ok (n, left) := by
    rintro (fault | ⟨m, rest⟩) hresult
    · cases hresult
    · cases hresult
      rfl
  cases source with
  | nil => cases h
  | cons x after =>
    rw [readScalar] at h
    -- the words and strings give values of other kinds
    split at h
    · cases hword : readWord ['u', 'l', 'l'] after <;> rw [hword] at h <;> cases h
    split at h
    · cases hword : readWord ['r', 'u', 'e'] after <;> rw [hword] at h <;> cases h
    split at h
    · cases hword : readWord ['a', 'l', 's', 'e'] after <;> rw [hword] at h <;> cases h
    split at h
    · next hminus => exact .inl ⟨after, by rw [hminus], hnum h⟩
    split at h
    · next hdigit => exact .inr ⟨x, after, rfl, hdigit, hnum h⟩
    split at h
    · cases hstring : readString after <;> rw [hstring] at h <;> cases h
    · cases h

namespace Number

/-- The text of the number reads as the number, to its end. -/
def ReadsBack (n : Number) : Prop := readScalar (n.text.map some) = .ok (.num n, [])

/-- Every integer reads back. -/
theorem readsBack_int (i : Integer) : (Number.int i).ReadsBack := by
  obtain ⟨i, hlow, hhigh⟩ := i
  change readScalar ((integerText i).map some) = _
  rw [integerText]
  by_cases hnegative : i < 0
  · have hofInt : Number.ofInt? (-(i.natAbs : Int)) = some (.int ⟨i, hlow, hhigh⟩) := by
      have habs : -(i.natAbs : Int) = i := by omega
      rw [habs, Number.ofInt?, dif_pos ⟨hlow, hhigh⟩]
    rw [if_pos hnegative, List.map_cons, readScalar_minus, readNumber_digits _ _ (by omega),
      readWhole]
    dsimp only
    rw [if_pos rfl, hofInt]
    dsimp only
    rw [if_neg (by simp; omega)]
    rfl
  · have hofInt : Number.ofInt? (i.natAbs : Int) = some (.int ⟨i, hlow, hhigh⟩) := by
      have habs : (i.natAbs : Int) = i := by omega
      rw [habs, Number.ofInt?, dif_pos ⟨hlow, hhigh⟩]
    obtain ⟨c, digits, hdigits⟩ :=
      List.exists_cons_of_ne_nil (Nat.toDigits_ne_nil (n := i.natAbs) (b := 10))
    have hc : isDigit (some c) = true := by
      refine isDigit_of_mem_digits (n := i.natAbs) ?_
      rw [hdigits]
      exact List.mem_cons_self
    rw [if_neg hnegative, hdigits, List.map_cons, readScalar_digit hc, ← List.map_cons, ← hdigits,
      readNumber_digits _ _ (by omega), readWhole]
    dsimp only
    rw [if_neg (by decide), hofInt]
    rfl

/-- A number that reads back does so before whatever closes it. -/
theorem ReadsBack.read {n : Number} (h : n.ReadsBack) {rest : Source} (hrest : Closes rest) :
    readScalar (n.text.map some ++ rest) = .ok (.num n, rest) := by
  rcases readScalar_eq_num h with ⟨after, htext, hread⟩ | ⟨x, after, htext, hdigit, hread⟩
  · rw [htext, List.cons_append, readScalar_minus, readNumber_local _ _ _ _ hread rest hrest]
    rfl
  · rw [htext, List.cons_append, readScalar_digit hdigit, ← List.cons_append,
      readNumber_local _ _ _ _ hread rest hrest]
    rfl

end Number

end Json

end FlowScript
