import FlowScript.Json.Decoder
import FlowScript.Proofs.Json.Text.Skipping

/-!
# Decoders agree with themselves

A decoder reads its shape from a value in memory and from text. Both ways accept the same
documents and give the same result (`Decoder.Agrees`), for every shape whose parts do:
`any_agrees`, `scalar_agrees`, `optional_agrees`, `list_agrees`, `table_agrees` and
`record_agrees`. A decoder that agrees can be run on the text of a value instead of the
value (`Agrees.parse_eq_ok_iff`).
-/

namespace FlowScript

namespace Json

namespace Decoder

variable {α β σ : Type}

/-- On the text of a value within the depth that is left, reading text follows reading
the value. -/
def Agrees (decoder : Decoder α) : Prop :=
  ∀ depth v, v.Plain → v.depth ≤ depth → Follows (decoder.ofText depth) decoder.ofValue v

/-! ### Values -/

/-- A reader of any value takes a value's text for the value (`readValue_follows`), and there is
nothing else to agree on. -/
theorem any_agrees : any.Agrees := fun depth _ hplain hdepth =>
  readValue_follows depth hplain hdepth

/-- What is made of the result is the same for both readings. -/
theorem Agrees.map {decoder : Decoder α} (h : decoder.Agrees) (f : α → β) :
    (decoder.map f).Agrees :=
  fun depth v hplain hdepth rest hrest => (h depth v hplain hdepth rest hrest).map f

/-- Something else than was expected is a fault, whatever it is. -/
theorem readMismatch_eq_error (difference : Value → Mismatch) (source : Source) :
    ∃ fault, (readMismatch difference source : Except Fault (α × Source)) = .error fault := by
  unfold readMismatch
  split
  · exact ⟨_, rfl⟩
  · exact ⟨_, rfl⟩
  · split
    · exact ⟨_, rfl⟩
    · exact ⟨_, rfl⟩

/-- A scalar is read from text as a value and then checked, so both readings come down to one
check. -/
theorem scalar_agrees (expected : String) (check : Value → Except Mismatch α) :
    (scalar expected check).Agrees := by
  intro depth v hplain _ rest hrest
  have hscalar : v.IsScalar →
      Answers rest (check v) ((scalar expected check).ofText depth (v.source ++ rest)) := by
    intro hscalar
    obtain ⟨c, after, hsource, hc⟩ := v.opens
    obtain ⟨hsquare, hcurly⟩ := hc.ne_bracket hscalar
    have hread := readScalar_source hplain hscalar hrest
    unfold scalar
    dsimp only
    rw [v.skipBlanks_source]
    rw [hsource, List.cons_append] at hread ⊢
    split
    · next heq => cases heq
    · next heq => exact absurd (Option.some.inj (List.cons.inj heq).1) hsquare
    · next heq => exact absurd (Option.some.inj (List.cons.inj heq).1) hcurly
    · rw [hread]
      dsimp only
      cases check v with
      | error difference => exact ⟨_, rfl⟩
      | ok a => rfl
  cases v with
  | arr items =>
    rw [source_arr]
    exact readMismatch_eq_error (typeMismatch expected) (some '[' :: (itemsFrom true items ++ rest))
  | obj members =>
    rw [source_obj]
    exact readMismatch_eq_error (typeMismatch expected)
      (some '\x7b' :: (membersFrom true members ++ rest))
  | _ => exact hscalar trivial

theorem stringAs_agrees (expected : String) (read : String → Except String α) :
    (stringAs expected read).Agrees :=
  scalar_agrees _ _

/-- An absent value is `null` in both readings. In text it is the word, and no other value's text
begins as that word does. -/
theorem optional_agrees {decoder : Decoder α} (h : decoder.Agrees) : decoder.optional.Agrees := by
  intro depth v hplain hdepth rest hrest
  by_cases hnull : v = .null
  · subst hnull
    rfl
  have hvalue : decoder.optional.ofValue v = (decoder.map some).ofValue v := by
    cases v with
    | null => exact absurd rfl hnull
    | _ => rfl
  have htext : decoder.optional.ofText depth (v.source ++ rest) =
      (decoder.map some).ofText depth (v.source ++ rest) := by
    obtain ⟨c, after, hsource, hc⟩ := v.opens
    have hn : c ≠ 'n' := by
      rintro rfl
      exact hnull hc.eq_null
    unfold optional
    dsimp only
    rw [v.skipBlanks_source, hsource, List.cons_append]
    split
    · next heq => exact absurd (Option.some.inj (List.cons.inj heq).1) hn
    · rfl
  rw [hvalue, htext]
  exact h.map some depth v hplain hdepth rest hrest

/-! ### Arrays and objects -/

/-- What is not in the brackets that are expected is a fault. -/
theorem bracketed_eq_error {opener : Char} {expected : String} {inner : Nat → Reader α}
    (depth : Nat) {v : Value} (hopens : ¬ v.Opens opener) (rest : Source) :
    ∃ fault, bracketed opener expected inner depth (v.source ++ rest) = .error fault := by
  obtain ⟨c, after, hsource, hc⟩ := v.opens
  unfold bracketed
  rw [v.skipBlanks_source, hsource, List.cons_append]
  dsimp only
  rw [if_neg fun h => hopens (by rwa [← Option.some.inj h])]
  exact readMismatch_eq_error _ _

/-- **Lists agree.** The items are read in order until one is refused, in both readings, and a
bracket takes one of the depth. -/
theorem list_agrees {item : Decoder α} (h : item.Agrees) : (list item).Agrees := by
  intro depth v hplain hdepth rest hrest
  by_cases hopens : v.Opens '['
  · obtain ⟨items, rfl⟩ := hopens.eq_arr
    obtain ⟨depth, rfl⟩ := Nat.exists_eq_add_one_of_ne_zero (Nat.ne_zero_of_lt hdepth)
    rw [source_arr, List.cons_append]
    refine readArray_answers (fun v hv => ?_) rest
    exact h depth v (hplain.item hv) (Value.depth_le_of_item hdepth hv)
  · obtain ⟨difference, hvalue⟩ : ∃ difference, (list item).ofValue v = .error difference := by
      cases v with
      | arr items => exact absurd rfl hopens
      | _ => exact ⟨_, rfl⟩
    rw [hvalue]
    exact bracketed_eq_error depth hopens rest

/-- **Tables agree**, in the same way as lists: member by member, each key with its value. -/
theorem table_agrees {item : Decoder α} (h : item.Agrees) (empty : σ)
    (insert : σ → String → α → σ) : (table item empty insert).Agrees := by
  intro depth v hplain hdepth rest hrest
  by_cases hopens : v.Opens '\x7b'
  · obtain ⟨members, rfl⟩ := hopens.eq_obj
    obtain ⟨depth, rfl⟩ := Nat.exists_eq_add_one_of_ne_zero (Nat.ne_zero_of_lt hdepth)
    rw [source_obj, List.cons_append]
    refine foldObject_answers (fun member hmember state rest hrest => ?_) empty rest
    exact readMember_answers (h depth member.2 (hplain.member hmember)
      (Value.depth_le_of_member hdepth hmember)) insert state hrest
  · obtain ⟨difference, hvalue⟩ :
        ∃ difference, (table item empty insert).ofValue v = .error difference := by
      cases v with
      | obj members => exact absurd rfl hopens
      | _ => exact ⟨_, rfl⟩
    rw [hvalue]
    exact bracketed_eq_error depth hopens rest

/-! ### Records -/

/-- **Step.** One member: an unknown one is passed over, a repeated one is refused, and
the value of a field is read by the field. -/
theorem memberOfText_answers {fields : List (Field α)}
    (hfields : ∀ field ∈ fields, field.update.Agrees) {depth : Nat} {member : String × Value}
    (hplain : member.2.Plain) (hdepth : member.2.depth ≤ depth) (state : Draft α) {rest : Source}
    (hrest : Closes rest) :
    Answers rest (memberOfValue fields state member)
      (memberOfText fields depth state member.1 (some ':' :: (member.2.source ++ rest))) := by
  unfold memberOfValue memberOfText
  cases hfield : field? fields member.1 with
  | none =>
    -- an unknown member is passed over, at any depth
    dsimp only
    rw [readColon_cons]
    dsimp only
    rw [skipValue_source _ hrest]
    rfl
  | some field =>
    dsimp only
    by_cases hseen : state.seen.contains field.name = true
    · rw [if_pos hseen, if_pos hseen]
      exact ⟨_, rfl⟩
    · rw [if_neg hseen, if_neg hseen]
      exact readMember_answers
        (hfields field (List.mem_of_find?_eq_some hfield) depth member.2 hplain hdepth)
        (fun state _ change => (⟨change state.record, field.name :: state.seen⟩ : Draft α)) state
        hrest

/-- The end of an array is found where its items end. -/
theorem closePositional_nil (first : Bool) (rest : Source) :
    closePositional (itemsFrom first [] ++ rest) = .ok rest := by
  change closePositional (some ']' :: rest) = _
  rw [closePositional, skipBlanks_cons (by decide)]
  exact if_pos rfl

/-- An item too many is a fault. -/
theorem closePositional_cons (first : Bool) (v : Value) (items : List Value) (rest : Source) :
    ∃ fault, closePositional (itemsFrom first (v :: items) ++ rest) = .error fault := by
  obtain ⟨c, after, hsource, hc⟩ := v.opens
  obtain ⟨hblank, hclose, hcomma⟩ := hc.ne
  have hclose : ¬ some c = some ']' := fun h => hclose (Option.some.inj h)
  rw [itemsFrom, List.append_assoc, hsource, closePositional]
  cases first with
  | true =>
    rw [if_pos rfl, List.cons_append, skipBlanks_cons hblank]
    dsimp only
    rw [if_neg hclose, if_neg (fun h => hcomma (Option.some.inj h))]
    exact ⟨_, rfl⟩
  | false =>
    rw [if_neg (by decide), List.cons_append, skipBlanks_cons (by decide)]
    dsimp only
    rw [if_neg (by decide), if_pos rfl, List.cons_append, skipBlanks_cons hblank]
    dsimp only
    rw [if_neg hclose]
    exact ⟨_, rfl⟩

/-- A record that is written as an array: its items are read field by field. -/
theorem positionalOfText_answers {fields : List (Field α)}
    (hfields : ∀ field ∈ fields, field.update.Agrees) (lengthError : Nat → Mismatch)
    (total depth : Nat) {items : List Value} (hplain : ∀ v ∈ items, v.Plain)
    (hdepth : ∀ v ∈ items, v.depth ≤ depth) (position : Nat) (record : α) (rest : Source) :
    Answers rest (positionalOfValue lengthError total position fields record items)
      (positionalOfText lengthError depth position fields record
        (itemsFrom (position == 0) items ++ rest)) := by
  -- on the fields: each takes one item, and the items may end before the fields do
  induction fields generalizing items position record with
  | nil =>
    rw [positionalOfText]
    cases items with
    | nil =>
      rw [closePositional_nil]
      rfl
    | cons v items =>
      obtain ⟨fault, hfault⟩ := closePositional_cons (position == 0) v items rest
      rw [hfault]
      exact ⟨fault, rfl⟩
  | cons field fields ih =>
    rw [positionalOfText]
    cases items with
    | nil =>
      rw [nextItem_nil, positionalOfValue]
      dsimp only
      cases missingPosition position (field :: fields) with
      | some missing => exact ⟨_, rfl⟩
      | none => rfl
    | cons v items =>
      rw [nextItem_cons, positionalOfValue]
      dsimp only
      rcases (hfields field List.mem_cons_self depth v (hplain v List.mem_cons_self)
        (hdepth v List.mem_cons_self) _ (closes_itemsFrom items rest)).cases with
        ⟨difference, fault, hvalue, htext⟩ | ⟨change, hvalue, htext⟩
      · rw [hvalue, htext]
        exact ⟨fault, rfl⟩
      · rw [hvalue, htext]
        exact ih (fun f hf => hfields f (List.mem_cons_of_mem _ hf))
          (fun w hw => hplain w (List.mem_cons_of_mem _ hw))
          (fun w hw => hdepth w (List.mem_cons_of_mem _ hw)) (position + 1) (change record)

/-- **Records agree** in both of their forms. In either, each field is read by its own decoder, and
what is not declared is skipped in text, for which it must be well-formed only. -/
theorem record_agrees (name : String) {fields : List (Field α)}
    (hfields : ∀ field ∈ fields, field.update.Agrees) (defaults : α) :
    (record name fields defaults).Agrees := by
  intro depth v hplain hdepth rest hrest
  by_cases hsquare : v.Opens '['
  · obtain ⟨items, rfl⟩ := hsquare.eq_arr
    obtain ⟨depth, rfl⟩ := Nat.exists_eq_add_one_of_ne_zero (Nat.ne_zero_of_lt hdepth)
    rw [source_arr]
    exact positionalOfText_answers hfields _ items.length depth (fun v hv => hplain.item hv)
      (fun v hv => Value.depth_le_of_item hdepth hv) 0 defaults rest
  by_cases hcurly : v.Opens '\x7b'
  · obtain ⟨members, rfl⟩ := hcurly.eq_obj
    obtain ⟨depth, rfl⟩ := Nat.exists_eq_add_one_of_ne_zero (Nat.ne_zero_of_lt hdepth)
    have hread := foldObject_answers (fun member hmember state rest hrest =>
      memberOfText_answers hfields (hplain.member hmember)
        (Value.depth_le_of_member hdepth hmember) state hrest) (⟨defaults, []⟩ : Draft α) rest
    unfold record
    dsimp only
    rw [source_obj, List.cons_append, skipBlanks_cons (by decide)]
    dsimp only
    rw [if_neg (by decide), if_pos rfl]
    rcases hread.cases with ⟨difference, fault, hvalue, htext⟩ | ⟨state, hvalue, htext⟩
    · rw [hvalue, htext]
      exact ⟨fault, rfl⟩
    rw [hvalue, htext]
    dsimp only
    cases state.finish fields with
    | error difference => exact ⟨_, rfl⟩
    | ok result => rfl
  · obtain ⟨difference, hvalue⟩ :
        ∃ difference, (record name fields defaults).ofValue v = .error difference := by
      cases v with
      | arr items => exact absurd rfl hsquare
      | obj members => exact absurd rfl hcurly
      | _ => exact ⟨_, rfl⟩
    obtain ⟨c, after, hsource, hc⟩ := v.opens
    rw [hvalue]
    unfold record
    dsimp only
    rw [v.skipBlanks_source, hsource, List.cons_append]
    dsimp only
    rw [if_neg fun h => hsquare (by rwa [← Option.some.inj h]),
      if_neg fun h => hcurly (by rwa [← Option.some.inj h])]
    exact readMismatch_eq_error _ _

/-! ### Documents -/

/-- A whole text is accepted when its value is, with the same result. -/
theorem Agrees.parse_eq_ok_iff {decoder : Decoder α} (h : decoder.Agrees) {v : Value}
    (hplain : v.Plain) (hdepth : v.depth ≤ depthLimit) (a : α) :
    decoder.parse v.source = .ok a ↔ decoder.ofValue v = .ok a := by
  have hread := h depthLimit v hplain hdepth [] closes_nil
  rw [List.append_nil] at hread
  unfold parse readDocument
  rcases hread.cases with ⟨difference, fault, hvalue, htext⟩ | ⟨b, hvalue, htext⟩
  · rw [hvalue, htext]
    exact ⟨nofun, nofun⟩
  · rw [hvalue, htext]
    change Except.ok b = .ok a ↔ _
    rw [Except.ok.injEq, Except.ok.injEq]

end Decoder

end Json

end FlowScript
