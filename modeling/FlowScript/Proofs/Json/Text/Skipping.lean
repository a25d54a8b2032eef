import FlowScript.Proofs.Json.Text.Values

/-!
# Passing over values in JSON text

A value that a shape ignores is passed over with a list of the open brackets instead of
recursion. The text of a value, followed by anything that may close it, is passed over
like nothing at all: what happens next is what happens behind a part of the open brackets
(`PassedOver`). From scalars up, that holds of every value (`passedOver`), at any depth.
-/

namespace FlowScript

namespace Json

/-! ### One step -/

/-- Goes on where the next value begins, or ends when no bracket is open. -/
def skipOn (fuel : Nat) : Except Fault (List Bracket × Source) → Except Fault Source
  | .error fault => .error fault
  | .ok ([], rest) => .ok rest
  | .ok (bracket :: outer, rest) => skipWithin fuel (bracket :: outer) rest

/-- Goes on behind a part of the open brackets. -/
def skipBehind (fuel : Nat) (brackets : List Bracket) (rest : Source) : Except Fault Source :=
  skipOn fuel (skipToValue (rest.length + 1) true brackets rest)

/-- One step: a value is begun or passed over, and then it depends on the open brackets where to go
on. -/
theorem skipWithin_succ (fuel : Nat) (brackets : List Bracket) (source : Source) :
    skipWithin (fuel + 1) brackets source = skipOn fuel (skipStart brackets source) := by
  rw [skipWithin]
  rcases skipStart brackets source with fault | ⟨_ | ⟨bracket, outer⟩, rest⟩ <;> rfl

/-- A scalar is passed over. -/
theorem skipScalar_source {v : Value} (hscalar : v.IsScalar) {rest : Source}
    (hrest : Closes rest) : skipScalar (v.source ++ rest) = .ok rest := by
  cases v with
  | null => rfl
  | bool b => cases b <;> rfl
  | num n => exact n.skipScalar_text hrest
  | str s =>
    change skipScalar (some '\x22' :: ((stringBody s.toList).map some ++ rest)) = _
    rw [skipScalar, if_neg (by decide), if_neg (by decide), if_neg (by decide), if_neg (by decide),
      if_neg (by decide), if_pos rfl, skipStringFrom_stringBody]
  | arr items => exact hscalar.elim
  | obj members => exact hscalar.elim

/-! ### Between the parts -/

/-- Behind the last item the bracket closes, and what was open around it is gone on with. -/
theorem skipToValue_items_nil (fuel : Nat) (first : Bool) (outer : List Bracket) (rest : Source) :
    skipToValue (fuel + 1) (!first) (.square :: outer) (itemsFrom first [] ++ rest) =
      skipToValue fuel true outer rest := by
  change skipToValue (fuel + 1) (!first) (.square :: outer) (some ']' :: rest) = _
  rw [skipToValue, skipBlanks_cons (by decide)]
  exact if_pos rfl

/-- Behind an item stands the next one, after a comma. The first one needs none. -/
theorem skipToValue_items_cons (fuel : Nat) (first : Bool) (outer : List Bracket) (v : Value)
    (items : List Value) (rest : Source) :
    skipToValue (fuel + 1) (!first) (.square :: outer) (itemsFrom first (v :: items) ++ rest) =
      .ok (.square :: outer, v.source ++ (itemsFrom false items ++ rest)) := by
  rw [itemsFrom, List.append_assoc, skipToValue]
  cases first with
  | true =>
    obtain ⟨c, after, hsource, hc⟩ := v.opens
    obtain ⟨hblank, hclose, -⟩ := hc.ne
    rw [if_pos rfl, hsource, List.cons_append, skipBlanks_cons hblank]
    dsimp only
    exact if_neg (fun h => hclose (Option.some.inj h))
  | false =>
    rw [if_neg (by decide), List.cons_append, skipBlanks_cons (by decide)]
    dsimp only
    rw [if_neg (by decide), if_pos (by decide), if_pos rfl]

/-- A key is passed over up to the value behind its colon, whatever is in it. -/
theorem skipKey_memberSource (member : String × Value) (rest : Source) :
    skipKey (some '\x22' :: (memberSource member ++ rest)) = .ok (member.2.source ++ rest) := by
  rw [skipKey, skipBlanks_cons (by decide)]
  dsimp only
  rw [if_pos rfl, memberSource, List.append_assoc, skipStringFrom_stringBody]
  exact readColon_cons _

theorem skipToValue_members_nil (fuel : Nat) (first : Bool) (outer : List Bracket)
    (rest : Source) :
    skipToValue (fuel + 1) (!first) (.curly :: outer) (membersFrom first [] ++ rest) =
      skipToValue fuel true outer rest := by
  change skipToValue (fuel + 1) (!first) (.curly :: outer) (some '\x7d' :: rest) = _
  rw [skipToValue, skipBlanks_cons (by decide)]
  exact if_pos rfl

/-- Behind a member stands the next one, of which the key is passed over at once. -/
theorem skipToValue_members_cons (fuel : Nat) (first : Bool) (outer : List Bracket)
    (member : String × Value) (members : List (String × Value)) (rest : Source) :
    skipToValue (fuel + 1) (!first) (.curly :: outer)
        (membersFrom first (member :: members) ++ rest) =
      .ok (.curly :: outer, member.2.source ++ (membersFrom false members ++ rest)) := by
  rw [membersFrom, List.append_assoc, skipToValue]
  cases first with
  | true =>
    rw [if_pos rfl, List.cons_append, skipBlanks_cons (by decide)]
    dsimp only
    rw [if_neg (by decide), if_neg (by decide), skipKey_memberSource]
    rfl
  | false =>
    rw [if_neg (by decide), List.cons_append, List.cons_append, skipBlanks_cons (by decide)]
    dsimp only
    rw [if_neg (by decide), if_pos (by decide), if_pos rfl, skipKey_memberSource]
    rfl

/-! ### Whole values -/

/-- Each part of a value takes one step, and then comes what comes behind the value. -/
def PassedOver (v : Value) : Prop :=
  ∀ fuel brackets rest, Closes rest →
    skipWithin (v.parts.length + fuel) brackets (v.source ++ rest) = skipBehind fuel brackets rest

/-- The items of an array are passed over one after the other, if each of them is by itself. The
induction is on the items; each takes as many steps as it has parts, and the fuel counts these. -/
theorem skipOn_items {items : List Value} (hitems : ∀ v ∈ items, PassedOver v) (fuel : Nat)
    (first : Bool) (outer : List Bracket) (rest : Source) :
    skipOn ((Value.itemsParts items).length + fuel)
        (skipToValue ((itemsFrom first items ++ rest).length + 1) (!first) (.square :: outer)
          (itemsFrom first items ++ rest)) =
      skipBehind fuel outer rest := by
  induction items generalizing first with
  | nil =>
    rw [skipToValue_items_nil, Value.itemsParts, List.length_nil, Nat.zero_add]
    rfl
  | cons v items ih =>
    rw [skipToValue_items_cons, Value.itemsParts, List.length_append, Nat.add_assoc, skipOn,
      hitems v List.mem_cons_self _ _ _ (closes_itemsFrom items rest)]
    exact ih (fun w hw => hitems w (List.mem_cons_of_mem _ hw)) false

/-- The members of an object are passed over in the same way. -/
theorem skipOn_members {members : List (String × Value)}
    (hmembers : ∀ member ∈ members, PassedOver member.2) (fuel : Nat) (first : Bool)
    (outer : List Bracket) (rest : Source) :
    skipOn ((Value.membersParts members).length + fuel)
        (skipToValue ((membersFrom first members ++ rest).length + 1) (!first) (.curly :: outer)
          (membersFrom first members ++ rest)) =
      skipBehind fuel outer rest := by
  induction members generalizing first with
  | nil =>
    rw [skipToValue_members_nil, Value.membersParts, List.length_nil, Nat.zero_add]
    rfl
  | cons member members ih =>
    rw [skipToValue_members_cons, Value.membersParts, List.length_append, Nat.add_assoc, skipOn,
      hmembers member List.mem_cons_self _ _ _ (closes_membersFrom members rest)]
    exact ih (fun m hm => hmembers m (List.mem_cons_of_mem _ hm)) false

/-- **Every value is passed over.** -/
theorem passedOver (v : Value) : PassedOver v := by
  -- over the parts and not the depth: the open brackets are data, so no depth is used up
  induction v using Value.fromParts with
  | scalar v hscalar =>
    intro fuel brackets rest hrest
    obtain ⟨c, after, hsource, hc⟩ := v.opens
    obtain ⟨hsquare, hcurly⟩ := hc.ne_bracket hscalar
    have hskip := skipScalar_source hscalar hrest
    rw [Value.parts_eq_of_isScalar hscalar, List.length_singleton, Nat.add_comm]
    rw [hsource, List.cons_append] at hskip ⊢
    rw [skipWithin_succ, skipStart, skipBlanks_cons hc.ne.1]
    dsimp only
    rw [if_neg (fun h => hsquare (Option.some.inj h)),
      if_neg (fun h => hcurly (Option.some.inj h)), hskip]
    rfl
  | arr items ih =>
    intro fuel brackets rest _
    rw [source_arr, Value.parts, List.length_cons, Nat.add_right_comm, List.cons_append,
      skipWithin_succ, skipStart, skipBlanks_cons (by decide)]
    dsimp only
    rw [if_pos rfl]
    exact skipOn_items ih fuel true brackets rest
  | obj members ih =>
    intro fuel brackets rest _
    rw [source_obj, Value.parts, List.length_cons, Nat.add_right_comm, List.cons_append,
      skipWithin_succ, skipStart, skipBlanks_cons (by decide)]
    dsimp only
    rw [if_neg (by decide), if_pos rfl]
    exact skipOn_members ih fuel true brackets rest

/-! ### The steps are enough -/

/-- Every part of a value has a character of its own in the text, so the length of the text is fuel
enough. -/
theorem length_itemsParts_le (first : Bool) {items : List Value}
    (h : ∀ v ∈ items, v.parts.length ≤ v.source.length) :
    (Value.itemsParts items).length ≤ (itemsFrom first items).length := by
  induction items generalizing first with
  | nil => exact Nat.zero_le _
  | cons v items ih =>
    have hv := h v List.mem_cons_self
    have hitems := ih false fun w hw => h w (List.mem_cons_of_mem _ hw)
    rw [Value.itemsParts, itemsFrom, List.length_append, List.length_append]
    cases first <;> simp only [Bool.false_eq_true, if_false, if_true, List.length_cons] <;> omega

theorem length_membersParts_le (first : Bool) {members : List (String × Value)}
    (h : ∀ member ∈ members, member.2.parts.length ≤ member.2.source.length) :
    (Value.membersParts members).length ≤ (membersFrom first members).length := by
  induction members generalizing first with
  | nil => exact Nat.zero_le _
  | cons member members ih =>
    have hmember := h member List.mem_cons_self
    have hmembers := ih false fun m hm => h m (List.mem_cons_of_mem _ hm)
    rw [Value.membersParts, membersFrom, List.length_append, List.length_append]
    cases first <;> simp only [Bool.false_eq_true, if_false, if_true, List.length_cons,
      memberSource, List.length_append] <;> omega

/-- Every part of a value takes at least one character of its text. -/
theorem length_parts_le (v : Value) : v.parts.length ≤ v.source.length := by
  induction v using Value.fromParts with
  | scalar v hscalar =>
    obtain ⟨c, after, hsource, -⟩ := v.opens
    rw [Value.parts_eq_of_isScalar hscalar, hsource]
    exact Nat.succ_le_succ (Nat.zero_le _)
  | arr items ih =>
    rw [source_arr, Value.parts]
    exact Nat.succ_le_succ (length_itemsParts_le true ih)
  | obj members ih =>
    rw [source_obj, Value.parts]
    exact Nat.succ_le_succ (length_membersParts_le true ih)

/-- The text of a value is passed over, whatever its depth. -/
theorem skipValue_source (v : Value) {rest : Source} (hrest : Closes rest) :
    skipValue (v.source ++ rest) = .ok rest := by
  obtain ⟨fuel, hfuel⟩ : ∃ fuel, (v.source ++ rest).length + 1 = v.parts.length + fuel := by
    have := length_parts_le v
    refine ⟨(v.source ++ rest).length + 1 - v.parts.length, ?_⟩
    rw [List.length_append]
    omega
  rw [skipValue, hfuel, passedOver v fuel [] rest hrest, skipBehind, skipToValue]
  rfl

end Json

end FlowScript
