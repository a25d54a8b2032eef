import FlowScript.Similarity
import Mathlib.Order.MinMax

/-!
# The distance counts the fewest changes

A change inserts, deletes or replaces one character at a place of a text (`Change`). The distance
of two texts is the number of changes in a shortest list of them that makes the one the other
(`editDistance_counts_fewest_changes`), in whatever order the list goes through the text.

The rows hold the distances of front parts, so what they compute recurs at the ends of the texts.
Said of reversed texts, that recurrence is `gap`, and both halves are shown of it:

* a list of changes is read off the branches of the recurrence (`exists_changes_gap`);
* one change, wherever it is made, moves the gap to any third text by at most one
  (`gap_le_of_change`), so no list is shorter.

A run needs no more than two rows at a time. The last section writes them in place, entry by entry,
and swaps them behind each character; the distance is the same (`editDistanceInPlace_eq`), and no
entry is read or written outside of a row.
-/

namespace FlowScript

/-! ### Changes -/

/-- A change of a single character at a place of a text. -/
inductive Change where
  /-- puts a character before the place -/
  | insert (place : Nat) (c : Char)
  /-- takes away the character at the place -/
  | delete (place : Nat)
  /-- puts a character in the stead of the one at the place -/
  | replace (place : Nat) (c : Char)
deriving DecidableEq

/-- The text after a change, if the text has the place. -/
def Change.applied? : Change → List Char → Option (List Char)
  | .insert place c, cs =>
    if place ≤ cs.length then some (cs.take place ++ c :: cs.drop place) else none
  | .delete place, cs => if place < cs.length then some (cs.eraseIdx place) else none
  | .replace place c, cs => if place < cs.length then some (cs.set place c) else none

/-- The text after changes that are made one after the other. -/
def allApplied? : List Change → List Char → Option (List Char)
  | [], cs => some cs
  | change :: changes, cs => (change.applied? cs).bind (allApplied? changes)

/-- A number of changes make one text the other, and no fewer do. -/
def FewestChanges (a b : List Char) (count : Nat) : Prop :=
  (∃ changes, allApplied? changes a = some b ∧ changes.length = count) ∧
    ∀ changes, allApplied? changes a = some b → count ≤ changes.length

/-- A change puts at most one character in the place of at most one. -/
theorem Change.exists_split {change : Change} {a b : List Char} (h : change.applied? a = some b) :
    ∃ (front back : List Char) (old new : Option Char),
      a = front ++ old.toList ++ back ∧ b = front ++ new.toList ++ back := by
  cases change with
  | insert place c =>
    obtain ⟨-, ⟨⟩⟩ := Option.ite_none_right_eq_some.1 h
    exact ⟨a.take place, a.drop place, none, some c, by simp, by simp⟩
  | delete place =>
    obtain ⟨hplace, ⟨⟩⟩ := Option.ite_none_right_eq_some.1 h
    refine ⟨a.take place, a.drop (place + 1), some a[place], none, ?_, ?_⟩
    · simp
    · simp [List.eraseIdx_eq_take_drop_succ]
  | replace place c =>
    obtain ⟨hplace, ⟨⟩⟩ := Option.ite_none_right_eq_some.1 h
    refine ⟨a.take place, a.drop (place + 1), some a[place], some c, ?_, ?_⟩
    · simp
    · simp [List.set_eq_take_append_cons_drop, hplace]

/-- Places count from the front, so nothing behind a text is in the way of a change. -/
theorem Change.applied?_append {change : Change} {a b : List Char} (h : change.applied? a = some b)
    (behind : List Char) : change.applied? (a ++ behind) = some (b ++ behind) := by
  cases change with
  | insert place c =>
    obtain ⟨hplace, ⟨⟩⟩ := Option.ite_none_right_eq_some.1 h
    rw [applied?, if_pos (by rw [List.length_append]; omega), List.take_append_of_le_length hplace,
      List.drop_append_of_le_length hplace, List.append_assoc, List.cons_append]
  | delete place =>
    obtain ⟨hplace, ⟨⟩⟩ := Option.ite_none_right_eq_some.1 h
    rw [applied?, if_pos (by rw [List.length_append]; omega),
      List.eraseIdx_append_of_lt_length hplace]
  | replace place c =>
    obtain ⟨hplace, ⟨⟩⟩ := Option.ite_none_right_eq_some.1 h
    rw [applied?, if_pos (by rw [List.length_append]; omega), List.set_append_left _ _ hplace]

/-- So neither is it in the way of a list of changes. -/
theorem allApplied?_behind {changes : List Change} {a b : List Char}
    (h : allApplied? changes a = some b) (behind : List Char) :
    allApplied? changes (a ++ behind) = some (b ++ behind) := by
  induction changes generalizing a with
  | nil => rw [Option.some.inj h, allApplied?]
  | cons change changes ih =>
    obtain ⟨next, hnext, h⟩ := Option.bind_eq_some_iff.1 h
    rw [allApplied?, Change.applied?_append hnext, Option.bind_some, ih h]

/-- One more change at the end is made to what the others have left. -/
theorem allApplied?_concat {changes : List Change} {a b : List Char}
    (h : allApplied? changes a = some b) (change : Change) :
    allApplied? (changes ++ [change]) a = change.applied? b := by
  induction changes generalizing a with
  | nil =>
    rw [Option.some.inj h, List.nil_append, allApplied?]
    exact Option.bind_fun_some _
  | cons first changes ih =>
    obtain ⟨next, hnext, h⟩ := Option.bind_eq_some_iff.1 h
    rw [List.cons_append, allApplied?, hnext, Option.bind_some, ih h]

/-! ### The recurrence -/

/-- The distance of two texts that are given from their ends. -/
def gap : List Char → List Char → Nat
  | [], bs => bs.length
  | as, [] => as.length
  | a :: as, b :: bs =>
    min (gap as (b :: bs) + 1) (min (gap (a :: as) bs + 1) (gap as bs + if a = b then 0 else 1))

@[simp] theorem gap_nil_left (bs : List Char) : gap [] bs = bs.length := by
  rw [gap.eq_def]

@[simp] theorem gap_nil_right (as : List Char) : gap as [] = as.length := by
  cases as <;> simp [gap]

/-- The three ways to deal with two last characters: the first is deleted, the second inserted, or
the one replaced by the other, which costs nothing if they are equal. -/
theorem gap_cons_cons (a b : Char) (as bs : List Char) :
    gap (a :: as) (b :: bs) =
      min (gap as (b :: bs) + 1)
        (min (gap (a :: as) bs + 1) (gap as bs + if a = b then 0 else 1)) := by
  rw [gap]

/-- Nothing needs to be changed in a text to make it itself. -/
theorem gap_self (as : List Char) : gap as as = 0 := by
  induction as with
  | nil => simp
  | cons a as ih => simp [gap_cons_cons, ih]

/-! ### A list of changes from the recurrence -/

/-- The last character of a text is deleted. -/
theorem applied?_delete_last (cs : List Char) (c : Char) :
    (Change.delete cs.length).applied? (cs ++ [c]) = some cs := by
  simp [Change.applied?, List.eraseIdx_append_of_length_le]

/-- A character is put behind a text. -/
theorem applied?_insert_last (cs : List Char) (c : Char) :
    (Change.insert cs.length c).applied? cs = some (cs ++ [c]) := by
  simp [Change.applied?]

/-- The last character of a text is replaced. -/
theorem applied?_replace_last (cs : List Char) (c d : Char) :
    (Change.replace cs.length d).applied? (cs ++ [c]) = some (cs ++ [d]) := by
  simp [Change.applied?, List.set_append_right]

/-- The last character is deleted first, and then the rest is changed. -/
theorem exists_changes_of_delete {as bs : List Char} {count : Nat} (a : Char)
    (h : ∃ changes, allApplied? changes as.reverse = some bs ∧ changes.length = count) :
    ∃ changes, allApplied? changes (a :: as).reverse = some bs ∧ changes.length = count + 1 := by
  obtain ⟨changes, happly, rfl⟩ := h
  refine ⟨.delete as.reverse.length :: changes, ?_, rfl⟩
  rw [allApplied?, List.reverse_cons, applied?_delete_last, Option.bind_some, happly]

/-- The rest is changed first, and then the last character is put behind it. -/
theorem exists_changes_of_insert {as bs : List Char} {count : Nat} (b : Char)
    (h : ∃ changes, allApplied? changes as = some bs.reverse ∧ changes.length = count) :
    ∃ changes, allApplied? changes as = some (b :: bs).reverse ∧ changes.length = count + 1 := by
  obtain ⟨changes, happly, rfl⟩ := h
  refine ⟨changes ++ [.insert bs.reverse.length b], ?_, List.length_append⟩
  rw [allApplied?_concat happly, applied?_insert_last, List.reverse_cons]

/-- The rest is changed with the last character behind it, which is replaced in the end if it has to
be. -/
theorem exists_changes_of_replace {as bs : List Char} {count : Nat} (a b : Char)
    (h : ∃ changes, allApplied? changes as.reverse = some bs.reverse ∧ changes.length = count) :
    ∃ changes, allApplied? changes (a :: as).reverse = some (b :: bs).reverse ∧
      changes.length = count + if a = b then 0 else 1 := by
  obtain ⟨changes, happly, rfl⟩ := h
  rw [List.reverse_cons, List.reverse_cons]
  by_cases hab : a = b
  · exact ⟨changes, hab ▸ allApplied?_behind happly [a], by simp [hab]⟩
  · refine ⟨changes ++ [.replace bs.reverse.length b], ?_, by simp [hab]⟩
    rw [allApplied?_concat (allApplied?_behind happly [a]), applied?_replace_last]

/-- The gap is the length of a list of changes: the branch that it takes says what to do with the
last characters. -/
theorem exists_changes_gap (as bs : List Char) :
    ∃ changes, allApplied? changes as.reverse = some bs.reverse ∧ changes.length = gap as bs := by
  induction as generalizing bs with
  | nil =>
    rw [gap_nil_left]
    induction bs with
    | nil => exact ⟨[], rfl, rfl⟩
    | cons b bs ih => exact exists_changes_of_insert b ih
  | cons a as ih =>
    induction bs with
    | nil =>
      rw [gap_nil_right, List.length_cons, ← gap_nil_right]
      exact exists_changes_of_delete a (ih [])
    | cons b bs ihleft =>
      rw [gap_cons_cons]
      rcases min_choice (gap as (b :: bs) + 1)
        (min (gap (a :: as) bs + 1) (gap as bs + if a = b then 0 else 1)) with h | h <;> rw [h]
      · exact exists_changes_of_delete a (ih (b :: bs))
      rcases min_choice (gap (a :: as) bs + 1) (gap as bs + if a = b then 0 else 1) with h | h <;>
        rw [h]
      · exact exists_changes_of_insert b ihleft
      · exact exists_changes_of_replace a b (ih bs)

/-! ### One change -/

/-- One text is at most one further than the other from every text. -/
def WithinOne (as bs : List Char) : Prop := ∀ cs, gap as cs ≤ gap bs cs + 1

/-- A character that a text has more can be deleted at the cost of one. -/
theorem withinOne_insert (a : Char) (as : List Char) : WithinOne (a :: as) as := by
  intro cs
  cases cs with
  | nil => simp
  | cons c cs =>
    rw [gap_cons_cons]
    exact Nat.min_le_left _ _

theorem gap_cons_right_le (as : List Char) (b : Char) (bs : List Char) :
    gap as (b :: bs) ≤ gap as bs + 1 := by
  cases as with
  | nil => simp
  | cons a as =>
    rw [gap_cons_cons]
    omega

/-- A character that a text has less can be inserted at the cost of one. This is the harder
direction: the recurrence deals with the character only where the other text gets to it, so the
induction is on that text. -/
theorem withinOne_delete (a : Char) (as : List Char) : WithinOne as (a :: as) := by
  intro cs
  induction cs with
  | nil => simp; omega
  | cons c cs ih =>
    have hmore := gap_cons_right_le as c cs
    rw [gap_cons_cons]
    omega

/-- A character that differs costs at most one, wherever the other text gets to it. -/
theorem withinOne_replace (a b : Char) (as : List Char) : WithinOne (a :: as) (b :: as) := by
  intro cs
  induction cs with
  | nil => simp
  | cons c cs ih =>
    rw [gap_cons_cons, gap_cons_cons]
    split <;> split <;> omega

/-- Texts that are close stay close behind one more character that they share. All three ways of the
recurrence go from one pair of distances that differ by at most one to another. -/
theorem WithinOne.cons {as bs : List Char} (h : WithinOne as bs) (c : Char) :
    WithinOne (c :: as) (c :: bs) := by
  intro cs
  induction cs with
  | nil => simpa using h []
  | cons d cs ih =>
    have hup := h (d :: cs)
    have hdiagonal := h cs
    rw [gap_cons_cons, gap_cons_cons]
    omega

theorem WithinOne.append {as bs : List Char} (h : WithinOne as bs) (front : List Char) :
    WithinOne (front ++ as) (front ++ bs) := by
  induction front with
  | nil => exact h
  | cons c front ih => exact ih.cons c

/-- The cases of a change, by whether it takes a character away and whether it puts one there. -/
theorem withinOne_options (old new : Option Char) (back : List Char) :
    WithinOne (old.toList ++ back) (new.toList ++ back) := by
  cases old with
  | none =>
    cases new with
    | none => exact fun cs => Nat.le_succ _
    | some b => exact withinOne_delete b back
  | some a =>
    cases new with
    | none => exact withinOne_insert a back
    | some b => exact withinOne_replace a b back

/-- **One change** moves the gap by at most one, wherever it is made. -/
theorem gap_le_of_change {change : Change} {a b : List Char} (h : change.applied? a = some b)
    (cs : List Char) : gap a.reverse cs ≤ gap b.reverse cs + 1 := by
  obtain ⟨front, back, old, new, rfl, rfl⟩ := Change.exists_split h
  have hreverse (c : Option Char) : c.toList.reverse = c.toList := by cases c <;> rfl
  simp only [List.reverse_append, hreverse]
  exact (withinOne_options old new front.reverse).append back.reverse cs

/-- **A list of changes** moves it by at most its length. Since a text is at no distance from
itself, a list that leads from one text to another is as long as their gap. -/
theorem gap_le_of_changes {changes : List Change} {a b : List Char}
    (h : allApplied? changes a = some b) : gap a.reverse b.reverse ≤ changes.length := by
  induction changes generalizing a with
  | nil => rw [Option.some.inj h, gap_self]; exact Nat.zero_le _
  | cons change changes ih =>
    obtain ⟨next, hnext, h⟩ := Option.bind_eq_some_iff.1 h
    calc gap a.reverse b.reverse ≤ gap next.reverse b.reverse + 1 := gap_le_of_change hnext _
      _ ≤ changes.length + 1 := Nat.succ_le_succ (ih h)

/-- The gap is what the definition of the distance promises: a number of changes that is enough, and
not more than any that is. -/
theorem fewestChanges_gap (as bs : List Char) :
    FewestChanges as bs (gap as.reverse bs.reverse) := by
  refine ⟨?_, fun changes h => gap_le_of_changes h⟩
  simpa using exists_changes_gap as.reverse bs.reverse

/-! ### Rows -/

/-- The entries of a row behind an entry: `as` is what has been read of the first text and `seen`
what the entry is about of the second, both from their ends. -/
def gapsFrom (as seen : List Char) : List Char → List Nat
  | [] => []
  | b :: bs => gap as (b :: seen) :: gapsFrom as (b :: seen) bs

/-- The row behind a front part of the first text. -/
def rowBehind (front bs : List Char) : List Nat :=
  front.foldl (nextRow bs) (List.range (bs.length + 1))

/-- **Step.** The entries of a row are made from left to right; each is the recurrence, of the entry
above it, the entry before it and the entry above that. -/
theorem nextEntries_gapsFrom (a : Char) (as seen bs : List Char) :
    nextEntries a (gap (a :: as) seen) bs (gap as seen :: gapsFrom as seen bs) =
      gapsFrom (a :: as) seen bs := by
  induction bs generalizing seen with
  | nil => rfl
  | cons b bs ih =>
    rw [gapsFrom, nextEntries, gapsFrom, ← gap_cons_cons, ih]

/-- One more character of the first text turns its row into the next one. -/
theorem nextRow_gapsFrom (a : Char) (as bs : List Char) :
    nextRow bs (gap as [] :: gapsFrom as [] bs) a =
      gap (a :: as) [] :: gapsFrom (a :: as) [] bs := by
  have hstart : gap as [] + 1 = gap (a :: as) [] := by simp
  rw [nextRow, List.headD_cons, hstart, nextEntries_gapsFrom]

/-- The first row counts up: from nothing, every front part is reached by insertions. -/
theorem gapsFrom_nil (seen bs : List Char) :
    gapsFrom [] seen bs = List.range' (seen.length + 1) bs.length := by
  induction bs generalizing seen with
  | nil => rfl
  | cons b bs ih =>
    rw [gapsFrom, ih, gap_nil_left, List.length_cons, List.length_cons, List.range'_succ]

/-- **Run.** Row after row, one for each character of the first text. What has been read is kept
from its end, as the recurrence takes it. -/
theorem foldl_nextRow_gapsFrom (front as bs : List Char) :
    front.foldl (nextRow bs) (gap as [] :: gapsFrom as [] bs) =
      gap (front.reverse ++ as) [] :: gapsFrom (front.reverse ++ as) [] bs := by
  induction front generalizing as with
  | nil => rfl
  | cons a front ih =>
    rw [List.foldl_cons, nextRow_gapsFrom, ih, List.reverse_cons, List.append_assoc,
      List.singleton_append]

theorem rowBehind_eq (front bs : List Char) :
    rowBehind front bs = gap front.reverse [] :: gapsFrom front.reverse [] bs := by
  have hfirst : List.range (bs.length + 1) = gap [] [] :: gapsFrom [] [] bs := by
    rw [gapsFrom_nil, List.range_eq_range', List.range'_succ, gap_nil_left]
    rfl
  rw [rowBehind, hfirst, foldl_nextRow_gapsFrom, List.append_nil]

theorem length_gapsFrom (as seen bs : List Char) : (gapsFrom as seen bs).length = bs.length := by
  induction bs generalizing seen with
  | nil => rfl
  | cons b bs ih => rw [gapsFrom, List.length_cons, ih, List.length_cons]

/-- An entry is found at the length of the front part that it is about. -/
theorem getElem?_gapsFrom (as seen bs : List Char) {j : Nat} (h : j ≤ bs.length) :
    (gap as seen :: gapsFrom as seen bs)[j]? = some (gap as ((bs.take j).reverse ++ seen)) := by
  induction bs generalizing seen j with
  | nil => simp_all
  | cons b bs ih =>
    cases j with
    | zero => rfl
    | succ j =>
      rw [List.getElem?_cons_succ, gapsFrom, ih _ (Nat.le_of_succ_le_succ h)]
      simp

theorem length_rowBehind (front bs : List Char) : (rowBehind front bs).length = bs.length + 1 := by
  rw [rowBehind_eq, List.length_cons, length_gapsFrom]

/-- The entries of a row are the distances of a front part to all front parts. -/
theorem getElem?_rowBehind (front bs : List Char) {j : Nat} (h : j ≤ bs.length) :
    (rowBehind front bs)[j]? = some (gap front.reverse (bs.take j).reverse) := by
  rw [rowBehind_eq, getElem?_gapsFrom _ _ _ h, List.append_nil]

/-- The last entry of the last row is about the whole of both texts. -/
theorem editDistance_eq_gap (as bs : List Char) :
    editDistance as bs = gap as.reverse bs.reverse := by
  have hlast := getElem?_rowBehind as bs (Nat.le_refl bs.length)
  rw [List.take_length] at hlast
  rw [editDistance, ← rowBehind, List.getLastD_eq_getLast?, List.getLast?_eq_getElem?,
    length_rowBehind, Nat.add_sub_cancel, hlast, Option.getD_some]

/-- **The fewest changes**: the distance of two texts is the number of changes in a shortest list
of insertions, deletions and replacements of single characters that makes the first text the
second. So are the entries of all rows, for the front parts that they stand for. Each row has an
entry for every front part of the second text, so none is looked for outside of a row. -/
theorem editDistance_counts_fewest_changes (a b : List Char) :
    FewestChanges a b (editDistance a b) ∧
    ∀ i, (rowBehind (a.take i) b).length = b.length + 1 ∧
      ∀ j ≤ b.length, ∃ entry, (rowBehind (a.take i) b)[j]? = some entry ∧
        FewestChanges (a.take i) (b.take j) entry := by
  refine ⟨?_, fun i => ⟨length_rowBehind _ _, fun j hj => ?_⟩⟩
  · rw [editDistance_eq_gap]
    exact fewestChanges_gap a b
  · exact ⟨_, getElem?_rowBehind _ _ hj, fewestChanges_gap _ _⟩

theorem kitten_sitting_fewest_changes :
    allApplied? [.replace 0 's', .replace 4 'i', .insert 6 'g'] "kitten".toList =
      some "sitting".toList ∧
    FewestChanges "kitten".toList "sitting".toList 3 ∧
    FewestChanges "kitt".toList "si".toList 3 := by
  obtain ⟨hwhole, hrows⟩ := editDistance_counts_fewest_changes "kitten".toList "sitting".toList
  have hthree : editDistance "kitten".toList "sitting".toList = 3 := by decide +kernel
  have hentry : (rowBehind ("kitten".toList.take 4) "sitting".toList)[2]? = some 3 := by
    decide +kernel
  obtain ⟨entry, hfound, hfewest⟩ := (hrows 4).2 2 (by decide +kernel)
  rw [hentry] at hfound
  exact ⟨by decide +kernel, hthree ▸ hwhole, Option.some.inj hfound ▸ hfewest⟩

/-! ### Rows in place -/

/-- The two rows that the distance to a text of a given length is computed with. Both are made once
and have the length of every row, so no entry is looked for outside of them. -/
structure Rows (size : Nat) where
  /-- the row behind what has been read of the first text -/
  known : Vector Nat (size + 1)
  /-- the row to write next, which holds what an earlier one has left -/
  spare : Vector Nat (size + 1)

/-- Writes the entry behind `j` from its neighbours. -/
def writeEntry (bs : List Char) (a : Char) (known : Vector Nat (bs.length + 1)) (j : Nat)
    (hj : j < bs.length) (row : Vector Nat (bs.length + 1)) : Vector Nat (bs.length + 1) :=
  let cost := if a = bs[j] then 0 else 1
  row.set (j + 1) (min (known[j + 1] + 1) (min (row[j] + 1) (known[j] + cost)))

/-- Overwrites the spare row from its first entry on, and swaps the rows. -/
def Rows.pass {bs : List Char} (rows : Rows bs.length) (i : Nat) (a : Char) : Rows bs.length :=
  let row := bs.length.fold (writeEntry bs a rows.known) (rows.spare.set 0 (i + 1))
  { known := row, spare := rows.known }

/-- The number of single-character changes between two texts, computed in place: the rows are
allocated for texts that are not empty, and one pass is made for each character of the first. -/
def editDistanceInPlace (as bs : List Char) : Nat :=
  if as.length = 0 then bs.length
  else if bs.length = 0 then as.length
  else
    let start : Rows bs.length := { known := .range _, spare := .replicate _ 0 }
    (as.length.fold (fun i hi rows => rows.pass i as[i]) start).known[bs.length]

/-- The entries of a row up to the one at `j` are the distances of a front part. -/
def HoldsUpTo (front bs : List Char) (row : Vector Nat (bs.length + 1)) (j : Nat) : Prop :=
  ∀ k, (hk : k < bs.length + 1) → k ≤ j → row[k] = gap front.reverse (bs.take k).reverse

theorem HoldsUpTo.getElem {front bs : List Char} {row : Vector Nat (bs.length + 1)} {j : Nat}
    (h : HoldsUpTo front bs row j) {k : Nat} (hk : k < bs.length + 1) (hkj : k ≤ j) :
    row[k] = gap front.reverse (bs.take k).reverse :=
  h k hk hkj

/-- One entry: its neighbours in the known row and before it are those of the recurrence, and the
entries before it stay as they are. -/
theorem HoldsUpTo.writeEntry {front bs : List Char} {a : Char} {j : Nat} {hj : j < bs.length}
    {known row : Vector Nat (bs.length + 1)} (hknown : HoldsUpTo front bs known bs.length)
    (hrow : HoldsUpTo (front ++ [a]) bs row j) :
    HoldsUpTo (front ++ [a]) bs (writeEntry bs a known j hj row) (j + 1) := by
  intro k hk hkj
  rcases Nat.lt_or_eq_of_le hkj with hbefore | rfl
  · rw [FlowScript.writeEntry, Vector.getElem_set_ne _ _ (by omega)]
    exact hrow k hk (Nat.le_of_lt_succ hbefore)
  · have htake : (bs.take (j + 1)).reverse = bs[j] :: (bs.take j).reverse := by
      rw [List.take_succ_eq_append_getElem hj, List.reverse_concat]
    have hfront : (front ++ [a]).reverse = a :: front.reverse := List.reverse_concat
    rw [FlowScript.writeEntry, Vector.getElem_set_self, hknown.getElem _ hj, hknown.getElem _ hj.le,
      hrow.getElem _ j.le_refl, htake, hfront, gap_cons_cons]

/-- One pass: from the first entry on, every entry that is written holds, so what the spare row held
before does not matter. -/
theorem HoldsUpTo.fold_writeEntry {front bs : List Char} {a : Char}
    {known row : Vector Nat (bs.length + 1)} (hknown : HoldsUpTo front bs known bs.length)
    (hrow : HoldsUpTo (front ++ [a]) bs row 0) (j : Nat) (hj : j ≤ bs.length) :
    HoldsUpTo (front ++ [a]) bs
      (j.fold (fun k hk => FlowScript.writeEntry bs a known k (Nat.lt_of_lt_of_le hk hj)) row)
      j := by
  induction j with
  | zero => exact hrow
  | succ j ih =>
    rw [Nat.fold_succ]
    exact hknown.writeEntry (ih (Nat.le_of_succ_le hj))

/-- One pass and the swap: the row that was spare is the known one now. Its first entry is the
number of characters read so far, which all would have to be deleted. -/
theorem Rows.holdsUpTo_pass {as bs : List Char} {rows : Rows bs.length} {i : Nat}
    (hi : i < as.length) (h : HoldsUpTo (as.take i) bs rows.known bs.length) :
    HoldsUpTo (as.take (i + 1)) bs (rows.pass i as[i]).known bs.length := by
  rw [List.take_succ_eq_append_getElem hi]
  refine h.fold_writeEntry (fun k hk hk0 => ?_) bs.length (Nat.le_refl _)
  obtain rfl := Nat.eq_zero_of_le_zero hk0
  simp [← List.take_succ_eq_append_getElem hi, Nat.succ_le_of_lt hi]

/-- The first row counts what is to be inserted. -/
theorem holdsUpTo_range (bs : List Char) : HoldsUpTo [] bs (.range _) bs.length := by
  intro k hk hkn
  simp [Nat.min_eq_left hkn]

/-- The whole run: after a pass for each of the first `i` characters, the known row is that of the
front part they make. -/
theorem holdsUpTo_fold_pass (as bs : List Char) {start : Rows bs.length}
    (hstart : HoldsUpTo [] bs start.known bs.length) (i : Nat) (hi : i ≤ as.length) :
    HoldsUpTo (as.take i) bs
      (i.fold (fun k hk rows => rows.pass k (as.get ⟨k, Nat.lt_of_lt_of_le hk hi⟩)) start).known
      bs.length := by
  induction i with
  | zero => exact hstart
  | succ i ih =>
    rw [Nat.fold_succ]
    exact Rows.holdsUpTo_pass hi (ih (Nat.le_of_succ_le hi))

/-- Rows that are overwritten in place give the same distance as rows that are made anew. -/
theorem editDistanceInPlace_eq (as bs : List Char) :
    editDistanceInPlace as bs = editDistance as bs := by
  rw [editDistance_eq_gap, editDistanceInPlace]
  split
  · next hempty => simp [List.length_eq_zero_iff.1 hempty]
  split
  · next hempty => simp [List.length_eq_zero_iff.1 hempty]
  · let start : Rows bs.length := { known := .range _, spare := .replicate _ 0 }
    have hstart : HoldsUpTo [] bs start.known bs.length := holdsUpTo_range bs
    have hlast := holdsUpTo_fold_pass as bs hstart as.length (Nat.le_refl _) bs.length
      (Nat.lt_succ_self _) (Nat.le_refl _)
    rw [List.take_length, List.take_length] at hlast
    exact hlast

end FlowScript
