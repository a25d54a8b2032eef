import FlowScript.Proofs.Json.Text.Numbers
import Mathlib.Data.List.DropRight

/-!
# The form of numbers

The text of every number, also of a real one, has the form that JSON gives to numbers: digits
without a zero too many in front, decimals behind a point, and an exponent (`Numeral`). A text of
this form is passed over, to where something stands that cannot go on with it
(`Numeral.skipNumber`), so a number of whatever size does not run into what is behind it. Whether it
is read back as the same number is another matter.
-/

namespace FlowScript

/-! ### Digits -/

/-- One or more digits. -/
structure Digits (cs : List Char) : Prop where
  /-- there is one -/
  ne_nil : cs ≠ []
  /-- all are -/
  all : ∀ c ∈ cs, c.isDigit = true

namespace Digits

variable {cs ds : List Char}

theorem singleton {c : Char} (h : c.isDigit = true) : Digits [c] :=
  ⟨List.cons_ne_nil _ _, List.forall_mem_singleton.2 h⟩

/-- Zeros behind digits, as the positional form writes them for a large number. -/
theorem append_zeros (h : Digits cs) (n : Nat) : Digits (cs ++ Binary64.zeros n) := by
  refine ⟨List.append_ne_nil_of_left_ne_nil h.ne_nil _, List.forall_mem_append.2 ⟨h.all, ?_⟩⟩
  intro c hc
  rw [List.eq_of_mem_replicate hc]
  rfl

/-- Zeros before digits, as the positional form writes them behind the point of a small number. -/
theorem zeros_append (h : Digits cs) (n : Nat) : Digits (Binary64.zeros n ++ cs) := by
  refine ⟨List.append_ne_nil_of_right_ne_nil _ h.ne_nil, List.forall_mem_append.2 ⟨?_, h.all⟩⟩
  intro c hc
  rw [List.eq_of_mem_replicate hc]
  rfl

/-- A part of the digits is digits, unless nothing is left of them. -/
theorem sublist (h : Digits cs) (hne : ds ≠ []) (hsublist : ds.Sublist cs) : Digits ds :=
  ⟨hne, fun c hc => h.all c (hsublist.subset hc)⟩

theorem toDigits (n : Nat) : Digits (Nat.toDigits 10 n) :=
  ⟨Nat.toDigits_ne_nil, fun _ hc => Nat.isDigit_of_mem_toDigits (by decide) (by decide) hc⟩

end Digits

namespace Json

/-! ### Numerals -/

/-- Decimals behind a point, or none. -/
inductive Decimals : List Char → Prop where
  /-- there are none -/
  | absent : Decimals []
  /-- there are some -/
  | present {ds : List Char} (h : Digits ds) : Decimals ('.' :: ds)

/-- An exponent with its sign, or none. -/
inductive Exponent : List Char → Prop where
  /-- there is none -/
  | absent : Exponent []
  /-- there is one -/
  | present {sign : Char} {ds : List Char} (hsign : sign = '+' ∨ sign = '-') (h : Digits ds) :
    Exponent ('e' :: sign :: ds)

/-- A number without its sign. No zero stands before another digit. -/
inductive Numeral : List Char → Prop where
  /-- digits, decimals and an exponent -/
  | mk {whole decimals exponent : List Char} (hwhole : Digits whole)
    (hzero : whole = ['0'] ∨ whole.head? ≠ some '0') (hdecimals : Decimals decimals)
    (hexponent : Exponent exponent) : Numeral (whole ++ decimals ++ exponent)

/-! ### A numeral is passed over -/

/-- Without the mark of an exponent, the number ends where it is. -/
theorem skipAfterDigits_of_ne {source : Source} (he : source.head? ≠ some (some 'e'))
    (hE : source.head? ≠ some (some 'E')) : skipAfterDigits source = .ok source := by
  unfold skipAfterDigits
  split
  · exact absurd rfl he
  · exact absurd rfl hE
  · rfl

/-- Without a point there are no decimals to pass over. -/
theorem skipFraction_of_ne {source : Source} (h : source.head? ≠ some (some '.')) :
    skipFraction source = skipAfterDigits source := by
  unfold skipFraction
  split
  · exact absurd rfl h
  · rfl

/-- A run of digits is passed over as a whole, because what follows it is no digit. -/
theorem dropWhile_digits {ds : List Char} (h : Digits ds) {rest : Source}
    (hrest : rest.head?.any isDigit = false) : (ds.map some ++ rest).dropWhile isDigit = rest := by
  have hall : ∀ x ∈ ds.map some, isDigit x = true := by
    intro x hx
    obtain ⟨c, hc, rfl⟩ := List.mem_map.1 hx
    exact h.all c hc
  rw [List.dropWhile_append_of_pos hall]
  cases rest with
  | nil => rfl
  | cons x rest =>
    exact List.dropWhile_cons_of_neg (by rw [show isDigit x = false from hrest]; decide)

/-- Where digits are asked for, digits begin. -/
theorem head_digits {ds : List Char} (h : Digits ds) (rest : Source) :
    (ds.map some ++ rest).head?.any isDigit = true := by
  obtain ⟨c, ds, rfl⟩ := List.exists_cons_of_ne_nil h.ne_nil
  exact h.all c List.mem_cons_self

/-- What ends a run of digits within a number, or behind it. -/
theorem Exponent.head_ne {cs : List Char} (h : Exponent cs) {rest : Source} (hrest : Closes rest) :
    (cs.map some ++ rest).head?.any isDigit = false ∧
      (cs.map some ++ rest).head? ≠ some (some '.') := by
  cases h with
  | absent =>
    refine ⟨hrest.isDigit_head, fun hdot => ?_⟩
    exact (hrest _ hdot).2.1 rfl
  | present hsign h => exact ⟨rfl, by simp⟩

/-- An exponent is passed over to the end of the number. Without one, what follows does not begin
like one: it closes the number. -/
theorem Exponent.skip {cs : List Char} (h : Exponent cs) {rest : Source} (hrest : Closes rest) :
    skipAfterDigits (cs.map some ++ rest) = .ok rest := by
  cases h with
  | absent =>
    exact skipAfterDigits_of_ne (fun he => (hrest _ he).2.2.1 rfl)
      (fun hE => (hrest _ hE).2.2.2 rfl)
  | @present sign ds hsign h =>
    have hdigits : (exponentSign (some sign :: (ds.map some ++ rest))).2 = ds.map some ++ rest := by
      rcases hsign with rfl | rfl <;> rfl
    change skipExponent (some sign :: (ds.map some ++ rest)) = _
    rw [skipExponent, hdigits, if_pos (head_digits h rest), dropWhile_digits h hrest.isDigit_head]

/-- Decimals are passed over to the exponent, or to where it would be. -/
theorem Decimals.skip {cs : List Char} (h : Decimals cs) {rest : Source}
    (hdigit : rest.head?.any isDigit = false) (hdot : rest.head? ≠ some (some '.')) :
    skipFraction (cs.map some ++ rest) = skipAfterDigits rest := by
  cases h with
  | absent => exact skipFraction_of_ne hdot
  | @present ds h =>
    rw [List.map_cons, List.cons_append, skipFraction, if_pos (head_digits h rest),
      dropWhile_digits h hdigit]

theorem Decimals.head_ne {cs : List Char} (h : Decimals cs) {rest : Source}
    (hrest : rest.head?.any isDigit = false) : (cs.map some ++ rest).head?.any isDigit = false := by
  cases h with
  | absent => exact hrest
  | present h => rfl

/-- **A numeral is passed over**, to whatever closes it. The reader refuses a zero before another
digit, and the form excludes it: a zero in front is the only digit before the point. -/
theorem Numeral.skipNumber {cs : List Char} (h : Numeral cs) {rest : Source} (hrest : Closes rest) :
    skipNumber (cs.map some ++ rest) = .ok rest := by
  cases h with
  | @mk whole decimals exponent hwhole hzero hdecimals hexponent =>
    obtain ⟨hdigit, hdot⟩ := hexponent.head_ne hrest
    have hbehind := hdecimals.head_ne hdigit
    have hdrop := dropWhile_digits hwhole hbehind
    obtain ⟨c, ds, rfl⟩ := List.exists_cons_of_ne_nil hwhole.ne_nil
    have hc : isDigit (some c) = true := hwhole.all c List.mem_cons_self
    have hfirst : ¬ (some c = some '0' &&
        (ds.map some ++ (decimals.map some ++ (exponent.map some ++ rest))).head?.any isDigit) =
          true := by
      intro h
      obtain ⟨hc, hnext⟩ := Bool.and_eq_true_iff.1 h
      obtain rfl := Option.some.inj (of_decide_eq_true hc)
      -- a zero in front is alone, and what comes behind the digits is none
      obtain rfl : ds = [] := (List.cons.inj (hzero.resolve_right fun hne => hne rfl)).2
      rw [List.map_nil, List.nil_append, hbehind] at hnext
      cases hnext
    rw [List.map_append, List.map_append, List.append_assoc, List.append_assoc]
    rw [List.map_cons, List.cons_append] at hdrop ⊢
    rw [Json.skipNumber, if_neg hfirst, if_neg (by rw [hc]; decide), hdrop,
      hdecimals.skip hdigit hdot, hexponent.skip hrest]

/-- A numeral begins with a digit, by which a reader knows it from the other scalars. -/
theorem Numeral.head {cs : List Char} (h : Numeral cs) :
    ∃ c after, cs = c :: after ∧ c.isDigit = true := by
  cases h with
  | mk hwhole =>
    obtain ⟨c, ds, rfl⟩ := List.exists_cons_of_ne_nil hwhole.ne_nil
    exact ⟨c, _, rfl, hwhole.all c List.mem_cons_self⟩

/-! ### The text of a number is a numeral -/

/-- The digits of a natural number are a numeral: no zero is in front, but for zero itself. -/
theorem numeral_toDigits (n : Nat) : Numeral (Nat.toDigits 10 n) := by
  have hzero : Nat.toDigits 10 n = ['0'] ∨ (Nat.toDigits 10 n).head? ≠ some '0' := by
    rcases Nat.eq_zero_or_pos n with rfl | hpos
    · exact .inl rfl
    · exact .inr (head?_toDigits_ne n hpos)
  have h := Numeral.mk (.toDigits n) hzero .absent .absent
  rwa [List.append_nil, List.append_nil] at h

/-- Whole digits, a point and decimals: the form of a real number without an exponent. -/
theorem numeral_decimals {whole ds : List Char} (hwhole : Digits whole)
    (hzero : whole = ['0'] ∨ whole.head? ≠ some '0') (hds : Digits ds) :
    Numeral (whole ++ '.' :: ds) := by
  have h := Numeral.mk hwhole hzero (.present hds) .absent
  rwa [List.append_nil] at h

end Json

namespace Binary64

/-- A number that is not zero has a positive significand: either the fraction itself, or the
fraction below a leading one. -/
theorem significand_pos {x : Binary64} (h : x.pattern ≠ 0) : 0 < x.significand := by
  rw [significand]
  split
  · exact Nat.pos_of_ne_zero h
  · exact Nat.lt_add_left _ (by decide)

/-- Scaling to a grid of decimals keeps a number positive. -/
theorem onGrid_pos {n : Nat} (h : 0 < n) (d : Nat) (exponent : Int) :
    0 < (onGrid n d exponent).1 := by
  rw [onGrid]
  split
  · exact h
  · exact Nat.mul_pos h (Nat.pow_pos (by decide))

section Search

variable {value lower upper denominator : Nat} {closed : Bool} {point : Int}

/-- Whichever of two candidates is taken, it lies in the interval; neither is taken otherwise. -/
theorem chosen_fits (fits : Nat → Bool) {nearest other digits : Nat}
    (h : (if fits nearest then some nearest else if fits other then some other else none) =
      some digits) : fits digits = true := by
  split at h
  · next hfit => exact Option.some.inj h ▸ hfit
  · split at h
    · next hfit => exact Option.some.inj h ▸ hfit
    · cases h

/-- What is not below a positive number is not zero. -/
theorem candidate_pos {count digits : Nat} (hlower : 0 < lower)
    (h : candidate value lower upper denominator closed point count = some digits) :
    0 < digits := by
  have hlo := onGrid_pos hlower denominator (point - count)
  have hfits := chosen_fits (fun c =>
    let shown := c * (onGrid value denominator (point - count)).2
    if closed then
      (onGrid lower denominator (point - count)).1 ≤ shown &&
        shown ≤ (onGrid upper denominator (point - count)).1
    else
      (onGrid lower denominator (point - count)).1 < shown &&
        shown < (onGrid upper denominator (point - count)).1) h
  refine Nat.pos_of_ne_zero ?_
  rintro rfl
  dsimp only at hfits
  rw [Nat.zero_mul] at hfits
  cases closed with
  | false => simp at hfits
  | true =>
    have hle := of_decide_eq_true (Bool.and_eq_true_iff.1 hfits).1
    omega

/-- The shortest digits of a positive number are not zero, however far the search has to go: a
candidate lies in an interval of positive numbers, and the last resort is the number itself. -/
theorem search_pos (hvalue : 0 < value) (hlower : 0 < lower) (more count : Nat) :
    0 < (search value lower upper denominator closed point more count).digits := by
  induction more generalizing count with
  | zero => exact onGrid_pos hvalue denominator _
  | succ more ih =>
    rw [search]
    split
    · next hcandidate => exact candidate_pos hlower hcandidate
    · exact ih _

end Search

/-- So the digits that a number other than zero is written with are not all zero, and there is a
first one that is none. -/
theorem decimal_pos {x : Binary64} (h : x.pattern ≠ 0) : 0 < x.decimal.digits := by
  have hm := significand_pos h
  have hscale : 0 < Nat.pow 2 x.step := Nat.two_pow_pos x.step
  refine search_pos (Nat.mul_pos (Nat.mul_pos (by decide) hm) hscale) ?_ _ _
  split
  · exact Nat.mul_pos (by omega) hscale
  · exact Nat.mul_pos (by omega) hscale

/-- A number that is not zero has digits, of which the first is no zero. -/
theorem digits_form {x : Binary64} (h : x.pattern ≠ 0) :
    Digits x.digits.1 ∧ x.digits.1.head? ≠ some '0' := by
  have hfirst := Json.head?_toDigits_ne _ (decimal_pos h)
  have hshown : x.digits.1 = (Nat.toDigits 10 x.decimal.digits).rdropWhile (· == '0') := rfl
  have hne : x.digits.1 ≠ [] := by
    rw [hshown, Ne, List.rdropWhile_eq_nil_iff]
    intro hzeros
    obtain ⟨c, ds, hds⟩ := List.exists_cons_of_ne_nil (Digits.toDigits x.decimal.digits).ne_nil
    rw [hds] at hfirst hzeros
    exact hfirst (congrArg some (eq_of_beq (hzeros c List.mem_cons_self)))
  have hpre := List.rdropWhile_prefix (· == '0') (l := Nat.toDigits 10 x.decimal.digits)
  rw [← hshown] at hpre
  refine ⟨(Digits.toDigits _).sublist hne hpre.sublist, ?_⟩
  obtain ⟨zeros, hzeros⟩ := hpre
  rwa [← hzeros, List.head?_append_of_ne_nil _ hne] at hfirst

variable {ds : List Char}

open Json

/-- The positional form has a zero before its point only if the number is below one, and then no
other digit there. -/
theorem numeral_positional (h : Digits ds) (hhead : ds.head? ≠ some '0') (point : Int) :
    Numeral (positional ds point) := by
  rw [positional]
  split
  · rw [List.append_assoc]
    exact numeral_decimals (.singleton rfl) (.inl rfl) (h.zeros_append _)
  · split
    · refine numeral_decimals (h.append_zeros _) (.inr ?_) (.singleton rfl)
      rwa [List.head?_append_of_ne_nil _ h.ne_nil]
    · next hpos hshort =>
      have htake : ds.take point.toNat ≠ [] := by
        rw [Ne, List.take_eq_nil_iff, not_or]
        exact ⟨by omega, h.ne_nil⟩
      have hdrop : ds.drop point.toNat ≠ [] := by
        rw [Ne, List.drop_eq_nil_iff]
        omega
      rw [List.append_assoc]
      refine numeral_decimals (h.sublist htake (List.take_sublist _ _)) (.inr ?_)
        (h.sublist hdrop (List.drop_sublist _ _))
      rwa [List.head?_take, if_neg (by omega)]

/-- The exponential form has one digit before its point, which is no zero. -/
theorem numeral_exponential (h : Digits ds) (hhead : ds.head? ≠ some '0') (point : Int) :
    Numeral (exponential ds point) := by
  have hsign : (if point - 1 < 0 then '-' else '+') = '+' ∨
      (if point - 1 < 0 then '-' else '+') = '-' := by
    split
    · exact .inr rfl
    · exact .inl rfl
  have hexponent := Exponent.present hsign (.toDigits (point - 1).natAbs)
  match ds, h, hhead with
  | [d], h, hhead =>
    have hshown := Numeral.mk h (.inr hhead) .absent hexponent
    exact hshown
  | d :: e :: rest, h, hhead =>
    have hone : Digits [d] := .singleton (h.all d List.mem_cons_self)
    have hrest : Digits (e :: rest) := h.sublist (List.cons_ne_nil _ _) (List.sublist_cons_self _ _)
    have hshown := Numeral.mk hone (.inr hhead) (.present hrest) hexponent
    change Numeral ([d] ++ '.' :: e :: rest ++ ['e', if point - 1 < 0 then '-' else '+'] ++ _)
    rwa [List.append_assoc]

/-- **Form of real numbers.** A number of whatever size is written as a numeral: zero by itself, and
others in the form that their size calls for. -/
theorem numeral_magnitudeText (x : Binary64) : Numeral x.magnitudeText := by
  rw [magnitudeText]
  split
  · exact numeral_decimals (.singleton rfl) (.inl rfl) (.singleton rfl)
  · next hzero =>
    obtain ⟨hdigits, hhead⟩ := digits_form hzero
    dsimp only
    split
    · exact numeral_positional hdigits hhead _
    · exact numeral_exponential hdigits hhead _

end Binary64

namespace Json

/-- The text of a number is a numeral, with or without a sign before it. -/
theorem Number.text_form (n : Number) :
    ∃ cs, Numeral cs ∧ (n.text = cs ∨ n.text = '-' :: cs) := by
  cases n with
  | int i =>
    refine ⟨_, numeral_toDigits i.val.natAbs, ?_⟩
    rw [text, integerText]
    split
    · exact .inr rfl
    · exact .inl rfl
  | real x =>
    refine ⟨_, x.val.numeral_magnitudeText, ?_⟩
    rw [text, Binary64.text]
    split
    · exact .inr rfl
    · exact .inl rfl

/-- The text of a number begins with the sign or a digit. -/
theorem Number.text_head (n : Number) :
    ∃ c after, n.text.map some = some c :: after ∧ (c = '-' ∨ c.isDigit = true) := by
  obtain ⟨cs, hcs, htext | htext⟩ := n.text_form
  · obtain ⟨c, after, rfl, hc⟩ := hcs.head
    exact ⟨c, after.map some, by rw [htext]; rfl, .inr hc⟩
  · exact ⟨'-', cs.map some, by rw [htext]; rfl, .inl rfl⟩

/-- **Every number is passed over**, up to what closes it. -/
theorem Number.skipScalar_text (n : Number) {rest : Source} (hrest : Closes rest) :
    skipScalar (n.text.map some ++ rest) = .ok rest := by
  obtain ⟨cs, hcs, htext | htext⟩ := n.text_form
  · rw [htext]
    have hskip := hcs.skipNumber hrest
    obtain ⟨c, after, rfl, hc⟩ := hcs.head
    rw [List.map_cons, List.cons_append] at hskip ⊢
    obtain ⟨hn, ht, hf, hminus⟩ := isDigit_ne (x := some c) hc
    rw [skipScalar, if_neg hn, if_neg ht, if_neg hf, if_neg hminus, if_pos (by exact hc), hskip]
  · rw [htext, List.map_cons, List.cons_append, skipScalar, if_neg (by decide),
      if_neg (by decide), if_neg (by decide), if_pos rfl, hcs.skipNumber hrest]

end Json

end FlowScript
