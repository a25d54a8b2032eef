import FlowScript.Proofs.Json.Fields

/-!
# Edits that a reader overlooks

A decoder overlooks a change to a document when it reads the changed document as it read the
document before (`Decoder.Overlooks`). Changes are told where they happen:

* inside one item of an array, one member of an object or one field of a record (`InItem`,
  `InMember`, `InField`), which lists, tables and records overlook if the reader of the part does;
* in the order of an object (`Reordered`), which tables overlook when keys are not repeated;
* among the members of a record (`RecordEdit`): their order, members that the record does not
  know, and members that it takes for their default. Records overlook all of these
  (`overlooks_recordEdit`).
-/

namespace FlowScript

namespace Json

/-! ### Changes -/

/-- One item of an array is changed. -/
inductive InItem (change : Value → Value → Prop) : Value → Value → Prop where
  /-- the item behind some and before others -/
  | intro {v w : Value} (front back : List Value) (h : change v w) :
      InItem change (.arr (front ++ v :: back)) (.arr (front ++ w :: back))

/-- The value of one member of an object is changed. -/
inductive InMember (key : String) (change : Value → Value → Prop) : Value → Value → Prop where
  /-- the member behind some and before others -/
  | intro {v w : Value} (front back : Members) (h : change v w) :
      InMember key change (.obj (front ++ (key, v) :: back)) (.obj (front ++ (key, w) :: back))

/-- One field of a record is changed, whether the record is written as an object or as an array
of fields with the given names. -/
inductive InField (names : List String) (key : String) (change : Value → Value → Prop) :
    Value → Value → Prop where
  /-- the member with the key of the field -/
  | member {v w : Value} (h : InMember key change v w) : InField names key change v w
  /-- the item in the place of the field -/
  | item {v w : Value} (front back : List Value) (hplace : names[front.length]? = some key)
      (h : change v w) :
      InField names key change (.arr (front ++ v :: back)) (.arr (front ++ w :: back))

/-- The members of an object, of which no two have one key, are put into another order. -/
inductive Reordered : Value → Value → Prop where
  /-- the same members -/
  | intro {members others : Members} (hkeys : (members.map Prod.fst).Nodup)
      (h : members.Perm others) : Reordered (.obj members) (.obj others)

/-- One edit to the members of a record with the declared keys. The keys of lenient fields come
with a test of their values; a value that fails it is as good as none. -/
inductive RecordEdit (declared : List String) (lenient : List (String × (Value → Bool))) :
    Members → Members → Prop where
  /-- the members are put into another order -/
  | reorder {members others : Members} (h : members.Perm others) :
      RecordEdit declared lenient members others
  /-- a member that is not declared is added -/
  | add {key : String} (value : Value) (front back : Members) (hkey : key ∉ declared) :
      RecordEdit declared lenient (front ++ back) (front ++ (key, value) :: back)
  /-- the value of a member that is not declared is changed -/
  | change {key : String} (value other : Value) (front back : Members) (hkey : key ∉ declared) :
      RecordEdit declared lenient (front ++ (key, value) :: back) (front ++ (key, other) :: back)
  /-- a member that is not declared is removed -/
  | remove {key : String} (value : Value) (front back : Members) (hkey : key ∉ declared) :
      RecordEdit declared lenient (front ++ (key, value) :: back) (front ++ back)
  /-- the value of a lenient field fails its test, and is replaced by another that does -/
  | replace {key : String} {fits : Value → Bool} {value other : Value} (front back : Members)
      (hkey : (key, fits) ∈ lenient) (hvalue : fits value = false) (hother : fits other = false) :
      RecordEdit declared lenient (front ++ (key, value) :: back) (front ++ (key, other) :: back)
  /-- the value of a lenient field fails its test, and the field is left out -/
  | leaveOut {key : String} {fits : Value → Bool} {value : Value} (front back : Members)
      (hkey : (key, fits) ∈ lenient) (hvalue : fits value = false) :
      RecordEdit declared lenient (front ++ (key, value) :: back) (front ++ back)

namespace Members

/-- A member can be taken out from between others without any other key noticing. -/
theorem get?_middle_of_ne {key other : String} (h : key ≠ other) (value : Value)
    (front back : Members) :
    get? (front ++ (key, value) :: back) other = get? (front ++ back) other := by
  rw [get?_append, get?_append, get?_cons_of_ne h]

/-- A member is found where it stands, if no member before it has its key. -/
theorem get?_middle_self {key : String} {front : Members} (h : key ∉ front.map Prod.fst)
    (value : Value) (back : Members) : get? (front ++ (key, value) :: back) key = some value := by
  rw [get?_append, get?_eq_none_iff.2 h, get?_cons_self]
  rfl

end Members

namespace Decoder

variable {α β : Type}

/-- What was read before the change is read after it. -/
def Overlooks (decoder : Decoder α) (change : Value → Value → Prop) : Prop :=
  ∀ v w a, change v w → decoder.ofValue v = .ok a → decoder.ofValue w = .ok a

/-- What is done with the result has no part in what is overlooked. -/
theorem Overlooks.map {decoder : Decoder α} {change : Value → Value → Prop}
    (h : decoder.Overlooks change) (f : α → β) : (decoder.map f).Overlooks change := by
  intro v w b hchange hread
  obtain ⟨a, ha, rfl⟩ := map_eq_ok hread
  change (decoder.ofValue w).map f = _
  rw [h v w a hchange ha]
  rfl

/-! ### Lists and tables -/

/-- Lists read their items one by one, so a change in one item is overlooked if the reader of items
overlooks it. -/
theorem overlooks_inItem {item : Decoder α} {change : Value → Value → Prop}
    (h : item.Overlooks change) : (list item).Overlooks (InItem change) := by
  rintro _ _ as ⟨front, back, hchange⟩ hread
  rename_i v w
  change (front ++ w :: back).mapM item.ofValue = _
  change (front ++ v :: back).mapM item.ofValue = _ at hread
  rw [List.mapM_append, List.mapM_cons] at hread ⊢
  obtain ⟨before, hbefore, hread⟩ := bind_eq_ok hread
  obtain ⟨others, hothers, hread⟩ := bind_eq_ok hread
  obtain ⟨a, ha, hothers⟩ := bind_eq_ok hothers
  rw [hbefore, ok_bind, h v w a hchange ha, ok_bind, hothers, ok_bind]
  exact hread

/-- Tables read the values of their members one by one; the keys of a changed table are as they
were. -/
theorem overlooks_inMember {σ : Type} {item : Decoder α} {empty : σ}
    {insert : σ → String → α → σ} {change : Value → Value → Prop} (h : item.Overlooks change)
    (key : String) : (table item empty insert).Overlooks (InMember key change) := by
  rintro _ _ result ⟨front, back, hchange⟩ hread
  rename_i v w
  simp only [table, List.foldlM_append, List.foldlM_cons] at hread ⊢
  obtain ⟨before, hbefore, hread⟩ := bind_eq_ok hread
  obtain ⟨state, hstate, hread⟩ := bind_eq_ok hread
  obtain ⟨a, ha, rfl⟩ := map_eq_ok hstate
  rw [hbefore, ok_bind, h v w a hchange ha]
  exact hread

/-- Members with different keys can be put into a map in any order. -/
theorem foldlM_insert_of_perm {item : Decoder α} {members others : Members}
    (h : members.Perm others) (hkeys : (members.map Prod.fst).Nodup) {start result : OrderedMap α}
    (hread : members.foldlM
      (fun state (key, v) => (item.ofValue v).map (OrderedMap.insert state key)) start =
        .ok result) :
    others.foldlM (fun state (key, v) => (item.ofValue v).map (OrderedMap.insert state key)) start =
      .ok result := by
  induction h generalizing start with
  | nil => exact hread
  | cons member _ ih =>
    rw [List.foldlM_cons] at hread ⊢
    obtain ⟨state, hstate, hread⟩ := bind_eq_ok hread
    rw [hstate, ok_bind]
    exact ih (List.nodup_cons.1 hkeys).2 hread
  | swap one other rest =>
    obtain ⟨key, v⟩ := one
    obtain ⟨key', v'⟩ := other
    have hne : key' ≠ key := fun heq => (List.nodup_cons.1 hkeys).1 (by simp [heq])
    simp only [List.foldlM_cons] at hread ⊢
    obtain ⟨state, hstate, hread⟩ := bind_eq_ok hread
    obtain ⟨a', ha', rfl⟩ := map_eq_ok hstate
    obtain ⟨state, hstate, hread⟩ := bind_eq_ok hread
    obtain ⟨a, ha, rfl⟩ := map_eq_ok hstate
    rw [ha, ha']
    rw [OrderedMap.insert_insert_of_ne start hne] at hread
    exact hread
  | trans hfirst _ ih ih' =>
    exact ih' ((hfirst.map Prod.fst).nodup_iff.1 hkeys) (ih hkeys hread)

/-- **Order of tables.** Insertions into a map at different keys can be swapped, so a table is read
as the same map in any order of its members. Distinct keys are needed here: of two members with one
key, the later one counts. -/
theorem overlooks_reordered (item : Decoder α) :
    (table item .empty OrderedMap.insert).Overlooks Reordered := by
  rintro _ _ result ⟨hkeys, hperm⟩ hread
  exact foldlM_insert_of_perm hperm hkeys hread

/-! ### Records -/

/-- A change inside one field of a record, if the field overlooks it. -/
theorem overlooks_field {name key : String} {fields : List (Field α)} {defaults : α}
    {field : Field α} (hfound : field? fields key = some field) {change : Value → Value → Prop}
    (h : field.update.Overlooks change) :
    (record name fields defaults).Overlooks (InMember key change) := by
  rintro _ _ result ⟨front, back, hchange⟩ hread
  rename_i v w
  have hstep : ∀ state next, memberOfValue fields state (key, v) = .ok next →
      memberOfValue fields state (key, w) = .ok next := by
    intro state next hnext
    simp only [memberOfValue, hfound] at hnext ⊢
    split at hnext
    · cases hnext
    · next hseen =>
      obtain ⟨update, hupdate, rfl⟩ := map_eq_ok hnext
      rw [if_neg hseen, h v w update hchange hupdate]
      rfl
  simp only [record, List.foldlM_append, List.foldlM_cons] at hread ⊢
  split at hread
  · cases hread
  · next state hstate =>
    obtain ⟨before, hbefore, hstate⟩ := bind_eq_ok hstate
    obtain ⟨next, hnext, hstate⟩ := bind_eq_ok hstate
    rw [hbefore, ok_bind, hstep before next hnext, ok_bind, hstate]
    exact hread

theorem declaredKeys_append (fields : List (Field α)) (front back : Members) :
    declaredKeys fields (front ++ back) =
      declaredKeys fields front ++ declaredKeys fields back := by
  simp [declaredKeys]

/-- Members that have the same declared keys, up to order, and under which the same is found,
say the same. -/
theorem SaidBy.congr {fields : List (Field α)} {defaults result : α} {members others : Members}
    (h : SaidBy fields defaults members result)
    (hkeys : (declaredKeys fields members).Perm (declaredKeys fields others))
    (hfind : ∀ field ∈ fields,
      Members.get? members field.name = Members.get? others field.name) :
    SaidBy fields defaults others result where
  unrepeated := hkeys.nodup_iff.1 h.unrepeated
  complete field hfield hrequired := hfind field hfield ▸ h.complete field hfield hrequired
  assembled := (assemble_congr hfind defaults).symm.trans h.assembled

/-- **Order of records.** A record refuses a key that comes twice, so its declared members have
distinct keys, and what is found among them does not depend on their order. Others may be repeated;
they are not looked at. -/
theorem SaidBy.reorder {fields : List (Field α)} {defaults result : α} {members others : Members}
    (h : SaidBy fields defaults members result) (hperm : members.Perm others) :
    SaidBy fields defaults others result := by
  refine h.congr ((hperm.map Prod.fst).filter _) fun field hfield => ?_
  -- only the declared members count, and these have distinct keys
  have hname : (field? fields field.name).isSome = true :=
    isSome_field?_iff.2 (List.mem_map_of_mem hfield)
  rw [← Members.get?_filter (fun key => (field? fields key).isSome) hname members,
    ← Members.get?_filter (fun key => (field? fields key).isSome) hname others]
  have hunrepeated := h.unrepeated
  rw [declaredKeys, List.filter_map] at hunrepeated
  exact Dictionary.get?_eq_of_perm ⟨_, hunrepeated⟩ (hperm.filter _) _

/-- A member with an unknown key is not declared and is not looked up. -/
theorem SaidBy.addUnknown {fields : List (Field α)} {defaults result : α} {key : String}
    {front back : Members} (h : SaidBy fields defaults (front ++ back) result)
    (hkey : key ∉ fields.map Field.name) (value : Value) :
    SaidBy fields defaults (front ++ (key, value) :: back) result := by
  refine h.congr ?_ fun field hfield => ?_
  · rw [declaredKeys_append, declaredKeys_append, declaredKeys_cons_of_notMem hkey]
  · refine (Members.get?_middle_of_ne ?_ value front back).symm
    rintro rfl
    exact hkey (List.mem_map_of_mem hfield)

/-- It can go as it came. -/
theorem SaidBy.removeUnknown {fields : List (Field α)} {defaults result : α} {key : String}
    {value : Value} {front back : Members}
    (h : SaidBy fields defaults (front ++ (key, value) :: back) result)
    (hkey : key ∉ fields.map Field.name) : SaidBy fields defaults (front ++ back) result := by
  refine h.congr ?_ fun field hfield => ?_
  · rw [declaredKeys_append, declaredKeys_append, declaredKeys_cons_of_notMem hkey]
  · refine Members.get?_middle_of_ne ?_ value front back
    rintro rfl
    exact hkey (List.mem_map_of_mem hfield)

/-- A field that may be left out, and takes every value that fails a test for its default. -/
structure Field.Forgives (field : Field α) (defaults : α) (fits : Value → Bool) : Prop where
  /-- the field may be left out -/
  optional : field.required = false
  /-- what does not fit changes nothing -/
  unchanged : ∀ value, fits value = false →
    ∃ change, field.update.ofValue value = .ok change ∧ change defaults = defaults

/-- A lenient field forgives what it reads as its default. -/
theorem forgives_of_read {name : String} {read : Value → β} {set : β → α → α} {defaults : α}
    {fits : Value → Bool} {b : β} (hread : ∀ value, fits value = false → read value = b)
    (hset : set b defaults = defaults) :
    (Field.withDefault name (any.map read) set).Forgives defaults fits where
  optional := rfl
  unchanged value hvalue := ⟨set (read value), rfl, by rw [hread value hvalue, hset]⟩

/-- A forgiven value says as much as none. Its change is brought to the front, where it meets
the defaults. -/
theorem SaidBy.forgive_iff {fields : List (Field α)} (hfields : Independent fields)
    {defaults result : α} {field : Field α} (hfield : field ∈ fields) {fits : Value → Bool}
    (hforgives : field.Forgives defaults fits)
    {front back : Members} (hfront : field.name ∉ declaredKeys fields front)
    (hback : field.name ∉ declaredKeys fields back) {value : Value} (hvalue : fits value = false) :
    SaidBy fields defaults (front ++ (field.name, value) :: back) result ↔
      SaidBy fields defaults (front ++ back) result := by
  have habsent := get?_eq_none_of_notMem hfield hfront
  have hnone : Members.get? (front ++ back) field.name = none := by
    rw [Members.get?_append, habsent, get?_eq_none_of_notMem hfield hback]
    rfl
  have hfind : ∀ other ∈ fields, Members.get? (front ++ (field.name, value) :: back) other.name =
      if field.name = other.name then some value else Members.get? (front ++ back) other.name := by
    intro other _
    by_cases heq : field.name = other.name
    · rw [if_pos heq, ← heq]
      exact Members.get?_middle_self (Members.get?_eq_none_iff.1 habsent) value back
    · rw [if_neg heq, Members.get?_middle_of_ne heq]
  obtain ⟨change, hchange, hdefaults⟩ := hforgives.unchanged value hvalue
  have hassemble : assemble (Members.get? (front ++ (field.name, value) :: back)) fields defaults =
      assemble (Members.get? (front ++ back)) fields defaults := by
    have hfirst := assemble_of_found hnone hchange hfields.nodup
      (fun _ hother hne => hfields.commutes hfield hother hne) hfield defaults
    rw [hdefaults] at hfirst
    exact (assemble_congr hfind defaults).trans hfirst
  have hkeys : (declaredKeys fields (front ++ (field.name, value) :: back)).Nodup ↔
      (declaredKeys fields (front ++ back)).Nodup := by
    rw [declaredKeys_append, declaredKeys_append,
      declaredKeys_cons_of_mem (List.mem_map_of_mem hfield), List.nodup_middle, List.nodup_cons,
      List.mem_append]
    exact and_iff_right fun h => h.elim hfront hback
  have hcomplete : (∀ other ∈ fields, other.required = true →
        ∃ v, Members.get? (front ++ (field.name, value) :: back) other.name = some v) ↔
      ∀ other ∈ fields, other.required = true →
        ∃ v, Members.get? (front ++ back) other.name = some v := by
    refine forall₂_congr fun other hother => imp_congr_right fun hrequired => ?_
    have hne : field.name ≠ other.name := by
      intro heq
      obtain rfl := List.inj_on_of_nodup_map hfields.nodup hfield hother heq
      rw [hforgives.optional] at hrequired
      cases hrequired
    rw [Members.get?_middle_of_ne hne]
  constructor
  · exact fun h => ⟨hkeys.1 h.unrepeated, hcomplete.1 h.complete, hassemble ▸ h.assembled⟩
  · exact fun h => ⟨hkeys.2 h.unrepeated, hcomplete.2 h.complete, hassemble.trans h.assembled⟩

/-- **Records overlook edits** that move members, that touch members they do not know, or that
replace or leave out what they take for a default. -/
theorem overlooks_recordEdit {name : String} {fields : List (Field α)} {defaults : α}
    (hfields : Independent fields) {lenient : List (String × (Value → Bool))}
    (hlenient : ∀ entry ∈ lenient, ∃ field, field? fields entry.1 = some field ∧
      field.Forgives defaults entry.2)
    {members others : Members}
    (hedit : RecordEdit (fields.map Field.name) lenient members others) {result : α}
    (hread : (record name fields defaults).ofValue (.obj members) = .ok result) :
    (record name fields defaults).ofValue (.obj others) = .ok result := by
  rw [record_obj_eq_ok_iff hfields] at hread ⊢
  -- a lenient field that is written stands nowhere else
  have halone : ∀ {key value front back}, key ∈ fields.map Field.name →
      SaidBy fields defaults (front ++ (key, value) :: back) result →
        key ∉ declaredKeys fields front ∧ key ∉ declaredKeys fields back := by
    intro key value front back hkey hsaid
    have h := hsaid.unrepeated
    rw [declaredKeys_append, declaredKeys_cons_of_mem hkey, List.nodup_middle, List.nodup_cons,
      List.mem_append, not_or] at h
    exact h.1
  cases hedit with
  | reorder hperm => exact hread.reorder hperm
  | add value front back hkey => exact hread.addUnknown hkey value
  | change value other front back hkey => exact (hread.removeUnknown hkey).addUnknown hkey other
  | remove value front back hkey => exact hread.removeUnknown hkey
  | replace front back hkey hvalue hother =>
    obtain ⟨field, hfound, hforgives⟩ := hlenient _ hkey
    have hfield := mem_of_field? hfound
    obtain rfl := name_of_field? hfound
    obtain ⟨hfront, hback⟩ := halone (List.mem_map_of_mem hfield) hread
    rw [SaidBy.forgive_iff hfields hfield hforgives hfront hback hvalue] at hread
    rwa [SaidBy.forgive_iff hfields hfield hforgives hfront hback hother]
  | leaveOut front back hkey hvalue =>
    obtain ⟨field, hfound, hforgives⟩ := hlenient _ hkey
    have hfield := mem_of_field? hfound
    obtain rfl := name_of_field? hfound
    obtain ⟨hfront, hback⟩ := halone (List.mem_map_of_mem hfield) hread
    rwa [SaidBy.forgive_iff hfields hfield hforgives hfront hback hvalue] at hread

end Decoder

end Json

end FlowScript
