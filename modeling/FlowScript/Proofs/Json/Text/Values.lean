import FlowScript.Proofs.Json.Parts
import FlowScript.Proofs.Json.Text.NumberForm
import FlowScript.Proofs.Json.Text.Strings

/-!
# Values in JSON text

What a reader finds in the text of a value. The text of an array or an object is laid out
as the readers go through it: what stands before a part, the part, and what is left
(`itemsFrom`, `membersFrom`). A reader of text is compared with a reading of values by
`Answers`: both give the same, or both fail.

* `readItems_answers` and `foldMembers_answers` carry an agreement from the parts to the
  whole, for any reader of the parts;
* `readValue_follows`: a value is read back from its text, if its depth is allowed.
-/

namespace FlowScript

namespace Json

/-! ### The layout of a text -/

/-- The text of a value, to be read. -/
def Value.source (v : Value) : Source := v.chars.map some

/-- The text of a value as a source to be read: every byte of it belongs to a character. -/
theorem Value.ofString_text (v : Value) : Source.ofString v.text = v.source := by
  rw [Source.ofString, Value.text, String.toList_ofList]
  rfl

/-- What stands behind the opening bracket of an array, or behind one of its items. -/
def itemsFrom (first : Bool) : List Value → Source
  | [] => [some ']']
  | v :: rest => (if first then v.source else some ',' :: v.source) ++ itemsFrom false rest

/-- A member behind the opening quote of its key. -/
def memberSource (member : String × Value) : Source :=
  (stringBody member.1.toList).map some ++ some ':' :: member.2.source

/-- What stands behind the opening brace of an object, or behind one of its members. -/
def membersFrom (first : Bool) : List (String × Value) → Source
  | [] => [some '\x7d']
  | member :: rest =>
    (if first then some '\x22' :: memberSource member
      else some ',' :: some '\x22' :: memberSource member) ++ membersFrom false rest

/-- The writer puts items together from the back, and the readers go through them from the front.
The two layouts are the same text. -/
theorem map_itemsTail (items : List Value) :
    (itemsTail items).map some = itemsFrom false items := by
  induction items with
  | nil => rfl
  | cons v items ih =>
    rw [itemsTail, itemsFrom, ← ih]
    simp [Value.source]

theorem map_membersTail (members : List (String × Value)) :
    (membersTail members).map some = membersFrom false members := by
  induction members with
  | nil => rfl
  | cons member members ih =>
    rw [membersTail, membersFrom, ← ih]
    simp [memberSource, stringText, Value.source]

/-- An array is its opening bracket and what stands behind it, where its first item is the first. -/
theorem source_arr (items : List Value) :
    (Value.arr items).source = some '[' :: itemsFrom true items := by
  cases items with
  | nil => rfl
  | cons v items =>
    rw [itemsFrom, ← map_itemsTail]
    simp [Value.source, Value.chars]

theorem source_obj (members : List (String × Value)) :
    (Value.obj members).source = some '\x7b' :: membersFrom true members := by
  cases members with
  | nil => rfl
  | cons member members =>
    rw [membersFrom, ← map_membersTail]
    simp [Value.source, Value.chars, memberSource, stringText]

/-- Behind an item stands a comma or the closing bracket, with which no number goes on. -/
theorem closes_itemsFrom (items : List Value) (rest : Source) :
    Closes (itemsFrom false items ++ rest) := by
  cases items with
  | nil => exact closes_cons (by decide) rest
  | cons v items => exact closes_cons (by decide) _

theorem closes_membersFrom (members : List (String × Value)) (rest : Source) :
    Closes (membersFrom false members ++ rest) := by
  cases members with
  | nil => exact closes_cons (by decide) rest
  | cons member members => exact closes_cons (by decide) _

/-- The items are no more than the characters, which bounds the steps of a reader. -/
theorem length_le_itemsFrom (first : Bool) (items : List Value) :
    items.length ≤ (itemsFrom first items).length := by
  have hbehind : ∀ items, items.length + 1 ≤ (itemsFrom false items).length := by
    intro items
    induction items with
    | nil => exact Nat.le_refl 1
    | cons v items ih =>
      simp only [itemsFrom, List.length_append, List.length_cons, Bool.false_eq_true, if_false]
      omega
  cases items with
  | nil => exact Nat.zero_le _
  | cons v items =>
    have := hbehind items
    simp only [itemsFrom, List.length_append, List.length_cons]
    omega

/-- An object of so many members has at least as many characters, so the length of its text bounds
the number of steps through it. -/
theorem length_le_membersFrom (first : Bool) (members : List (String × Value)) :
    members.length ≤ (membersFrom first members).length := by
  induction members generalizing first with
  | nil => exact Nat.zero_le _
  | cons member members ih =>
    have := ih false
    cases first <;>
      simp only [membersFrom, List.length_append, List.length_cons, Bool.false_eq_true, if_false,
        if_true] <;>
      omega

/-! ### How a value begins -/

/-- The character with which the text of a value begins tells what kind of value it is. -/
def Value.Opens : Value → Char → Prop
  | .null, c => c = 'n'
  | .bool _, c => c = 't' ∨ c = 'f'
  | .num _, c => c = '-' ∨ c.isDigit = true
  | .str _, c => c = '\x22'
  | .arr _, c => c = '['
  | .obj _, c => c = '\x7b'

/-- The first character of a text tells what kind of value follows. So readers that look at it take
the branch of that kind. -/
theorem Value.opens (v : Value) : ∃ c after, v.source = some c :: after ∧ v.Opens c := by
  cases v with
  | null => exact ⟨_, _, rfl, rfl⟩
  | bool b =>
    cases b with
    | true => exact ⟨_, _, rfl, .inl rfl⟩
    | false => exact ⟨_, _, rfl, .inr rfl⟩
  | num n => exact n.text_head
  | str s => exact ⟨_, _, rfl, rfl⟩
  | arr items => exact ⟨_, _, source_arr items, rfl⟩
  | obj members => exact ⟨_, _, source_obj members, rfl⟩

/-- What a value begins with is no blank and ends nothing. -/
theorem Value.Opens.ne {v : Value} {c : Char} (h : v.Opens c) :
    isBlank (some c) = false ∧ c ≠ ']' ∧ c ≠ ',' := by
  have hnot : ∀ d ∈ [' ', '\n', '\t', '\r', ']', ','], c ≠ d := by
    rintro d hd rfl
    simp only [List.mem_cons, List.not_mem_nil, or_false] at hd
    rcases hd with rfl | rfl | rfl | rfl | rfl | rfl <;> cases v <;> revert h <;>
      simp only [Value.Opens] <;> decide
  refine ⟨?_, hnot _ (by decide), hnot _ (by decide)⟩
  simp [isBlank, hnot]

/-- No value but `null` begins as the word does; `true` and `false` begin with other letters. -/
theorem Value.Opens.eq_null {v : Value} (h : v.Opens 'n') : v = .null := by
  cases v with
  | null => rfl
  | _ =>
    exfalso
    revert h
    simp only [Value.Opens]
    decide

theorem Value.Opens.eq_arr {v : Value} (h : v.Opens '[') : ∃ items, v = .arr items := by
  cases v with
  | arr items => exact ⟨items, rfl⟩
  | _ =>
    exfalso
    revert h
    simp only [Value.Opens]
    decide

theorem Value.Opens.eq_obj {v : Value} (h : v.Opens '\x7b') : ∃ members, v = .obj members := by
  cases v with
  | obj members => exact ⟨members, rfl⟩
  | _ =>
    exfalso
    revert h
    simp only [Value.Opens]
    decide

/-- A scalar begins with no bracket. -/
theorem Value.Opens.ne_bracket {v : Value} {c : Char} (h : v.Opens c) (hv : v.IsScalar) :
    c ≠ '[' ∧ c ≠ '\x7b' := by
  constructor
  · rintro rfl
    obtain ⟨items, rfl⟩ := h.eq_arr
    exact hv
  · rintro rfl
    obtain ⟨members, rfl⟩ := h.eq_obj
    exact hv

theorem skipBlanks_cons {x : Option Char} (h : isBlank x = false) (rest : Source) :
    skipBlanks (x :: rest) = x :: rest :=
  List.dropWhile_cons_of_neg (by rw [h]; decide)

/-- A value begins with no blank, so there is nothing to pass over before it. -/
theorem Value.skipBlanks_source (v : Value) (rest : Source) :
    skipBlanks (v.source ++ rest) = v.source ++ rest := by
  obtain ⟨c, after, hsource, hc⟩ := v.opens
  rw [hsource]
  exact skipBlanks_cons hc.ne.1 _

/-! ### What stands between the parts -/

/-- A reader behind the last item, or in an empty array, finds the bracket that closes it. -/
theorem nextItem_nil (first : Bool) (rest : Source) :
    nextItem first (itemsFrom first [] ++ rest) = .ok (.closed rest) := by
  change nextItem first (some ']' :: rest) = _
  rw [nextItem, skipBlanks_cons (by decide)]
  exact if_pos rfl

/-- A reader behind an item finds the next one, behind its comma if it is not the first. -/
theorem nextItem_cons (first : Bool) (v : Value) (items : List Value) (rest : Source) :
    nextItem first (itemsFrom first (v :: items) ++ rest) =
      .ok (.next (v.source ++ (itemsFrom false items ++ rest))) := by
  obtain ⟨c, after, hsource, hc⟩ := v.opens
  obtain ⟨hblank, hclose, -⟩ := hc.ne
  have hclose : ¬ some c = some ']' := fun h => hclose (Option.some.inj h)
  rw [itemsFrom, List.append_assoc, hsource, nextItem]
  cases first with
  | true =>
    rw [if_pos rfl, List.cons_append, skipBlanks_cons hblank]
    dsimp only
    rw [if_neg hclose, if_pos rfl]
  | false =>
    rw [if_neg (by decide), List.cons_append, skipBlanks_cons (by decide)]
    dsimp only
    rw [if_neg (by decide), if_neg (by decide), if_pos rfl, List.cons_append,
      skipBlanks_cons hblank]
    dsimp only
    rw [if_neg hclose]

theorem nextMember_nil (first : Bool) (rest : Source) :
    nextMember first (membersFrom first [] ++ rest) = .ok (.closed rest) := by
  change nextMember first (some '\x7d' :: rest) = _
  rw [nextMember, skipBlanks_cons (by decide)]
  exact if_pos rfl

/-- A reader behind a member finds the next one, of which it has read the opening quote. -/
theorem nextMember_cons (first : Bool) (member : String × Value)
    (members : List (String × Value)) (rest : Source) :
    nextMember first (membersFrom first (member :: members) ++ rest) =
      .ok (.next (memberSource member ++ (membersFrom false members ++ rest))) := by
  rw [membersFrom, List.append_assoc, nextMember]
  cases first with
  | true =>
    rw [if_pos rfl, List.cons_append, skipBlanks_cons (by decide)]
    dsimp only
    rw [if_neg (by decide), if_pos rfl, if_pos rfl]
  | false =>
    rw [if_neg (by decide), List.cons_append, List.cons_append, skipBlanks_cons (by decide)]
    dsimp only
    rw [if_neg (by decide), if_neg (by decide), if_pos rfl, skipBlanks_cons (by decide)]
    dsimp only
    rw [if_pos rfl]

/-- The key of a member is read, and what is left begins with the colon. -/
theorem readString_memberSource (member : String × Value) (rest : Source) :
    readString (memberSource member ++ rest) =
      .ok (member.1, some ':' :: (member.2.source ++ rest)) := by
  rw [memberSource, List.append_assoc, readString_stringBody]
  rfl

theorem readColon_cons (rest : Source) : readColon (some ':' :: rest) = .ok rest := by
  rw [readColon, skipBlanks_cons (by decide)]
  exact if_pos rfl

/-! ### Agreement -/

section

variable {α σ : Type}

/-- What was found in a text answers what was expected of a value: the same result, with
the rest left over, or a fault for a mismatch. -/
def Answers (rest : Source) : Except Mismatch α → Except Fault (α × Source) → Prop
  | .ok a, found => found = .ok (a, rest)
  | .error _, found => ∃ fault, found = .error fault

/-- A reader of text follows a reading of values at a value: before whatever may close it,
its text is answered. -/
def Follows (reader : Reader α) (reading : Value → Except Mismatch α) (v : Value) : Prop :=
  ∀ rest, Closes rest → Answers rest (reading v) (reader (v.source ++ rest))

/-- Both fail, or both give the same. -/
theorem Answers.cases {rest : Source} {expected : Except Mismatch α}
    {found : Except Fault (α × Source)} (h : Answers rest expected found) :
    (∃ difference fault, expected = .error difference ∧ found = .error fault) ∨
      ∃ a, expected = .ok a ∧ found = .ok (a, rest) := by
  cases expected with
  | error difference =>
    obtain ⟨fault, hfault⟩ := h
    exact .inl ⟨difference, fault, rfl, hfault⟩
  | ok a => exact .inr ⟨a, rfl, h⟩

/-- To change what is read on both sides alike keeps them in agreement. -/
theorem Answers.map {β : Type} {rest : Source} {expected : Except Mismatch α}
    {found : Except Fault (α × Source)} (h : Answers rest expected found) (f : α → β) :
    Answers rest (expected.map f) (found.map fun (a, rest) => (f a, rest)) := by
  rcases h.cases with ⟨difference, fault, rfl, rfl⟩ | ⟨a, rfl, rfl⟩
  · exact ⟨fault, rfl⟩
  · rfl

/-- **Arrays.** If the reader of the items follows at each item, the items are answered. -/
theorem readItems_answers {item : Reader α} {reading : Value → Except Mismatch α}
    {items : List Value} (hitems : ∀ v ∈ items, Follows item reading v) (fuel : Nat)
    (hfuel : items.length < fuel) (first : Bool) (rest : Source) :
    Answers rest (items.mapM reading)
      (readItems item fuel first (itemsFrom first items ++ rest)) := by
  induction items generalizing fuel first with
  | nil =>
    obtain ⟨fuel, rfl⟩ := Nat.exists_eq_add_one_of_ne_zero (Nat.ne_zero_of_lt hfuel)
    rw [readItems, nextItem_nil]
    rfl
  | cons v items ih =>
    obtain ⟨fuel, rfl⟩ := Nat.exists_eq_add_one_of_ne_zero (Nat.ne_zero_of_lt hfuel)
    rw [readItems, nextItem_cons, List.mapM_cons]
    dsimp only
    rcases (hitems v List.mem_cons_self _ (closes_itemsFrom items rest)).cases with
      ⟨difference, fault, hvalue, htext⟩ | ⟨a, hvalue, htext⟩
    · rw [hvalue, htext]
      exact ⟨fault, rfl⟩
    rw [hvalue, htext]
    dsimp only
    rcases (ih (fun w hw => hitems w (List.mem_cons_of_mem _ hw)) fuel
      (Nat.lt_of_succ_lt_succ hfuel) false).cases with
      ⟨difference, fault, hvalues, htexts⟩ | ⟨as, hvalues, htexts⟩
    · rw [hvalues, htexts]
      exact ⟨fault, rfl⟩
    · rw [hvalues, htexts]
      rfl

/-- **Objects.** If each step follows at its member, the members are answered. -/
theorem foldMembers_answers {step : σ → String → Reader σ}
    {reading : σ → String × Value → Except Mismatch σ} {members : List (String × Value)}
    (hmembers : ∀ member ∈ members, ∀ state rest, Closes rest →
      Answers rest (reading state member)
        (step state member.1 (some ':' :: (member.2.source ++ rest))))
    (fuel : Nat) (hfuel : members.length < fuel) (first : Bool) (state : σ) (rest : Source) :
    Answers rest (members.foldlM reading state)
      (foldMembers step fuel first state (membersFrom first members ++ rest)) := by
  induction members generalizing fuel first state with
  | nil =>
    obtain ⟨fuel, rfl⟩ := Nat.exists_eq_add_one_of_ne_zero (Nat.ne_zero_of_lt hfuel)
    rw [foldMembers, nextMember_nil]
    rfl
  | cons member members ih =>
    obtain ⟨fuel, rfl⟩ := Nat.exists_eq_add_one_of_ne_zero (Nat.ne_zero_of_lt hfuel)
    rw [foldMembers, nextMember_cons]
    dsimp only
    rw [readString_memberSource, List.foldlM_cons]
    dsimp only
    rcases (hmembers member List.mem_cons_self state _ (closes_membersFrom members rest)).cases with
      ⟨difference, fault, hvalue, htext⟩ | ⟨next, hvalue, htext⟩
    · rw [hvalue, htext]
      exact ⟨fault, rfl⟩
    · rw [hvalue, htext]
      exact ih (fun m hm => hmembers m (List.mem_cons_of_mem _ hm)) fuel
        (Nat.lt_of_succ_lt_succ hfuel) false next

/-- **Arrays.** The readers of text and of values go through the same items in the same order, and
stop at the same one. -/
theorem readArray_answers {item : Reader α} {reading : Value → Except Mismatch α}
    {items : List Value} (hitems : ∀ v ∈ items, Follows item reading v) (rest : Source) :
    Answers rest (items.mapM reading) (readArray item (itemsFrom true items ++ rest)) := by
  refine readItems_answers hitems _ ?_ true rest
  have := length_le_itemsFrom true items
  rw [List.length_append]
  omega

/-- **Objects.** The same for members, with what has been collected so far in hand. -/
theorem foldObject_answers {step : σ → String → Reader σ}
    {reading : σ → String × Value → Except Mismatch σ} {members : List (String × Value)}
    (hmembers : ∀ member ∈ members, ∀ state rest, Closes rest →
      Answers rest (reading state member)
        (step state member.1 (some ':' :: (member.2.source ++ rest))))
    (state : σ) (rest : Source) :
    Answers rest (members.foldlM reading state)
      (foldObject step state (membersFrom true members ++ rest)) := by
  refine foldMembers_answers hmembers _ ?_ true state rest
  have := length_le_membersFrom true members
  rw [List.length_append]
  omega

/-- One member is read as its value is, and put under its key. -/
theorem readMember_answers {value : Reader α} {reading : Value → Except Mismatch α}
    {member : String × Value} (h : Follows value reading member.2) (insert : σ → String → α → σ)
    (state : σ) {rest : Source} (hrest : Closes rest) :
    Answers rest ((reading member.2).map (insert state member.1))
      (readMember value insert state member.1 (some ':' :: (member.2.source ++ rest))) := by
  rw [readMember, readColon_cons]
  dsimp only
  rcases (h rest hrest).cases with ⟨difference, fault, hvalue, htext⟩ | ⟨a, hvalue, htext⟩
  · rw [hvalue, htext]
    exact ⟨fault, rfl⟩
  · rw [hvalue, htext]
    rfl

end

/-! ### Values that are kept -/

/-- A scalar is read back. -/
theorem readScalar_source {v : Value} (hplain : v.Plain) (hscalar : v.IsScalar) {rest : Source}
    (hrest : Closes rest) : readScalar (v.source ++ rest) = .ok (v, rest) := by
  cases v with
  | null => rfl
  | bool b => cases b <;> rfl
  | num n => exact hplain.readsBack.read hrest
  | str s =>
    change readScalar (some '\x22' :: ((stringBody s.toList).map some ++ rest)) = _
    rw [readScalar, if_neg (by decide), if_neg (by decide), if_neg (by decide), if_neg (by decide),
      if_neg (by decide), if_pos rfl, readString_stringBody]
    rfl
  | arr items => exact hscalar.elim
  | obj members => exact hscalar.elim

/-- A key that is new goes to the end. -/
theorem insert_of_notMem {members : Members} {key : String} (h : key ∉ members.map Prod.fst)
    (value : Value) : Members.insert members key value = members ++ [(key, value)] := by
  induction members with
  | nil => rfl
  | cons member members ih =>
    rw [List.map_cons, List.mem_cons, not_or] at h
    rw [Members.insert, if_neg (Ne.symm h.1), ih h.2]
    rfl

/-- Members with distinct keys are put together in their order. -/
theorem foldlM_insert_eq (state members : List (String × Value))
    (h : ((state ++ members).map Prod.fst).Nodup) :
    members.foldlM (fun state (member : String × Value) =>
        ((.ok member.2 : Except Mismatch Value)).map (Members.insert state member.1)) state =
      .ok (state ++ members) := by
  induction members generalizing state with
  | nil =>
    rw [List.append_nil]
    rfl
  | cons member members ih =>
    have hkey : member.1 ∉ state.map Prod.fst := by
      rw [List.map_append, List.nodup_append] at h
      intro hmem
      exact h.2.2 _ hmem _ (List.mem_map_of_mem List.mem_cons_self) rfl
    rw [List.foldlM_cons]
    change List.foldlM _ (Members.insert state member.1 member.2) members = _
    rw [insert_of_notMem hkey, ih _ (by rwa [List.append_assoc, List.singleton_append]),
      List.append_assoc, List.singleton_append]

/-- A scalar is told by its first character, which is no bracket, and read as such. -/
theorem readValueWith_scalar (inner : Option (Reader Value)) {v : Value} (hplain : v.Plain)
    (hscalar : v.IsScalar) : Follows (readValueWith inner) .ok v := by
  intro rest hrest
  obtain ⟨c, after, hsource, hc⟩ := v.opens
  obtain ⟨hsquare, hcurly⟩ := hc.ne_bracket hscalar
  change readValueWith inner (v.source ++ rest) = .ok (v, rest)
  rw [← readScalar_source hplain hscalar hrest, readValueWith, v.skipBlanks_source, hsource]
  dsimp only [List.cons_append]
  rw [if_neg (fun h => hsquare (Option.some.inj h)), if_neg (fun h => hcurly (Option.some.inj h))]

theorem mapM_ok (items : List Value) :
    items.mapM (.ok : Value → Except Mismatch Value) = .ok items := by
  have h := List.mapM_pure (m := Except Mismatch) (l := items) (f := id)
  rwa [List.map_id] at h

/-- An array is read back if its items are. The reader of the items may go one depth less deep. -/
theorem readValueWith_arr {value : Reader Value} {items : List Value}
    (hitems : ∀ v ∈ items, Follows value .ok v) :
    Follows (readValueWith (some value)) .ok (.arr items) := by
  intro rest _
  have hread := readArray_answers hitems rest
  rw [mapM_ok] at hread
  change readValueWith (some value) ((Value.arr items).source ++ rest) = _
  rw [source_arr, List.cons_append, readValueWith, skipBlanks_cons (by decide)]
  dsimp only
  rw [if_pos rfl, show readArray value _ = .ok (items, rest) from hread]
  rfl

/-- An object is read back if its values are and its keys are distinct: a key that came again would
lose its first value. -/
theorem readValueWith_obj {value : Reader Value} {members : List (String × Value)}
    (hplain : (Value.obj members).Plain)
    (hmembers : ∀ member ∈ members, Follows value .ok member.2) :
    Follows (readValueWith (some value)) .ok (.obj members) := by
  intro rest _
  have hread := foldObject_answers (fun member hmember state rest hrest =>
    readMember_answers (hmembers member hmember) Members.insert state hrest) [] rest
  rw [foldlM_insert_eq [] members hplain.nodup] at hread
  change readValueWith (some value) ((Value.obj members).source ++ rest) = _
  rw [source_obj, List.cons_append, readValueWith, skipBlanks_cons (by decide)]
  dsimp only
  rw [if_neg (by decide), if_pos rfl, show foldObject _ _ _ = .ok (members, rest) from hread]
  rfl

/-- **Values are read back.** A value whose depth is allowed is read from its text. -/
theorem readValue_follows (depth : Nat) {v : Value} (hplain : v.Plain) (hdepth : v.depth ≤ depth) :
    Follows (readValue depth) .ok v := by
  -- on the depth: what a bracket holds is read by the reader of one depth less
  induction depth generalizing v with
  | zero =>
    cases v with
    | arr items => cases hdepth
    | obj members => cases hdepth
    | _ => exact readValueWith_scalar none hplain trivial
  | succ depth ih =>
    cases v with
    | arr items =>
      exact readValueWith_arr fun v hv =>
        ih (hplain.item hv) (Value.depth_le_of_item hdepth hv)
    | obj members =>
      exact readValueWith_obj hplain fun member hmember =>
        ih (hplain.member hmember) (Value.depth_le_of_member hdepth hmember)
    | _ => exact readValueWith_scalar _ hplain trivial

end Json

end FlowScript
