import FlowScript.Proofs.Json.Members
import FlowScript.Proofs.Json.Record
import Mathlib.Data.List.Pairwise

/-!
# Records, field by field

A record is read from members in the order in which they come, or from the items of an
array. Neither order matters: what is read is the same as when each field is looked up
under its name, in the order of the fields (`assemble`).

* `record_obj_eq_ok_iff` says so for objects. Members are taken as they come, and a change
  that a later field makes is brought forward over the changes of others
  (`assemble_of_found`), for which the fields must not get into each other's way.
* `record_arr_eq_ok_iff` says so for arrays: an array is read like the object that has its
  items under the names of the fields.
* `accepts_record_iff` forgets what is read and keeps what is accepted: every field that is
  there is accepted by its own shape, and none that is required is missing.
-/

namespace FlowScript

namespace Json

namespace Decoder

variable {α β : Type}

/-! ### Reading by name -/

/-- The changes that two fields make can be made in either order. -/
def Field.Commutes (one other : Field α) : Prop :=
  ∀ v w change further, one.update.ofValue v = .ok change → other.update.ofValue w = .ok further →
    ∀ record, change (further record) = further (change record)

instance : Std.Symm (Field.Commutes (α := α)) where
  symm _ _ h v w change further hchange hfurther record :=
    (h w v further change hfurther hchange record).symm

/-- Fields that set different parts of a record do not get into each other's way. -/
theorem Field.commutes_of_set {γ : Type} {name name' : String} {required required' : Bool}
    {decoder : Decoder β} {decoder' : Decoder γ} {set : β → α → α} {set' : γ → α → α}
    (h : ∀ b c record, set b (set' c record) = set' c (set b record)) :
    Field.Commutes ⟨name, required, decoder.map set⟩ ⟨name', required', decoder'.map set'⟩ := by
  intro v w change further hchange hfurther record
  obtain ⟨b, -, rfl⟩ := map_eq_ok hchange
  obtain ⟨c, -, rfl⟩ := map_eq_ok hfurther
  exact h b c record

/-- Fields that do not get into each other's way: no two have one name, and their changes can be
made in any order. Every record has such fields. -/
structure Independent (fields : List (Field α)) : Prop where
  /-- no two fields have one name -/
  nodup : (fields.map Field.name).Nodup
  /-- their changes can be made in any order -/
  commute : fields.Pairwise Field.Commutes

/-- Fields of different names are different fields, and so their changes can be swapped. -/
theorem Independent.commutes {fields : List (Field α)} (h : Independent fields)
    {field other : Field α} (hfield : field ∈ fields) (hother : other ∈ fields)
    (hne : other.name ≠ field.name) : field.Commutes other :=
  h.commute.forall hfield hother fun heq => hne (heq ▸ rfl)

/-- A record whose fields are looked up in their own order; one that is not found keeps what
the record has. -/
def assemble (find : String → Option Value) : List (Field α) → α → Except Mismatch α
  | [], record => .ok record
  | field :: fields, record =>
    match find field.name with
    | none => assemble find fields record
    | some value => do
      let change ← field.update.ofValue value
      assemble find fields (change record)

theorem assemble_cons_none {find : String → Option Value} {field : Field α}
    (h : find field.name = none) (fields : List (Field α)) (record : α) :
    assemble find (field :: fields) record = assemble find fields record := by
  rw [assemble, h]

theorem assemble_cons_some {find : String → Option Value} {field : Field α} {value : Value}
    (h : find field.name = some value) (fields : List (Field α)) (record : α) :
    assemble find (field :: fields) record =
      field.update.ofValue value >>= fun change => assemble find fields (change record) := by
  rw [assemble, h]

/-- Only the names of the fields are looked up. -/
theorem assemble_congr {find other : String → Option Value} {fields : List (Field α)}
    (h : ∀ field ∈ fields, find field.name = other field.name) (record : α) :
    assemble find fields record = assemble other fields record := by
  induction fields generalizing record with
  | nil => rfl
  | cons field fields ih =>
    have hfield := h field List.mem_cons_self
    have hrest := ih fun f hf => h f (List.mem_cons_of_mem _ hf)
    cases hfind : find field.name with
    | none =>
      rw [assemble_cons_none hfind, assemble_cons_none (hfield ▸ hfind), hrest]
    | some value =>
      rw [assemble_cons_some hfind, assemble_cons_some (hfield ▸ hfind)]
      exact congrArg _ (funext fun change => hrest _)

/-- Where nothing is found, nothing is changed. -/
theorem assemble_none (fields : List (Field α)) (record : α) :
    assemble (fun _ => none) fields record = .ok record := by
  induction fields with
  | nil => rfl
  | cons field fields ih => rw [assemble_cons_none rfl, ih]

/-- A field that is found makes its change as if it were the first. The induction goes
through the fields in front of it, whose changes it passes. -/
theorem assemble_of_found {find : String → Option Value} {field : Field α} {value : Value}
    {change : α → α} (hnone : find field.name = none)
    (hchange : field.update.ofValue value = .ok change) {fields : List (Field α)}
    (hnames : (fields.map Field.name).Nodup)
    (hcommutes : ∀ other ∈ fields, other.name ≠ field.name → field.Commutes other)
    (hfield : field ∈ fields) (record : α) :
    assemble (fun name => if field.name = name then some value else find name) fields record =
      assemble find fields (change record) := by
  induction fields generalizing record with
  | nil => cases hfield
  | cons first fields ih =>
    obtain ⟨hfirst, hnames⟩ := List.nodup_cons.1 hnames
    by_cases heq : first.name = field.name
    · -- the field stands here, and nowhere else
      obtain rfl : field = first := by
        rcases List.mem_cons.1 hfield with h | h
        · exact h
        · exact absurd (List.mem_map.2 ⟨field, h, heq.symm⟩) hfirst
      have hothers : ∀ other ∈ fields,
          (if field.name = other.name then some value else find other.name) = find other.name :=
        fun other hother =>
          if_neg fun h => hfirst (List.mem_map.2 ⟨other, hother, h.symm⟩)
      rw [assemble_cons_some (if_pos rfl), hchange, ok_bind, assemble_congr hothers,
        assemble_cons_none hnone]
    · have hfield : field ∈ fields := by
        rcases List.mem_cons.1 hfield with rfl | h
        · exact absurd rfl heq
        · exact h
      have ih := ih hnames (fun other hother => hcommutes other (List.mem_cons_of_mem _ hother))
        hfield
      have hfind : (if field.name = first.name then some value else find first.name) =
          find first.name := if_neg (Ne.symm heq)
      cases hfound : find first.name with
      | none =>
        rw [assemble_cons_none (hfind.trans hfound), assemble_cons_none hfound, ih]
      | some w =>
        rw [assemble_cons_some (hfind.trans hfound), assemble_cons_some hfound]
        cases hfurther : first.update.ofValue w with
        | error difference => rfl
        | ok further =>
          have hswap := hcommutes first List.mem_cons_self heq value w change further hchange
            hfurther record
          rw [ok_bind, ok_bind, ih, hswap]

/-! ### Acceptance -/

/-- Something is read from the value. -/
def Accepts (decoder : Decoder α) (value : Value) : Prop :=
  ∃ a, decoder.ofValue value = .ok a

/-- What is assembled can be assembled whatever the record, if every field that is found is
accepted. -/
theorem exists_assemble_iff {find : String → Option Value} {fields : List (Field α)} {record : α} :
    (∃ result, assemble find fields record = .ok result) ↔
      ∀ field ∈ fields, ∀ value, find field.name = some value → field.update.Accepts value := by
  induction fields generalizing record with
  | nil => exact ⟨fun _ _ h => absurd h List.not_mem_nil, fun _ => ⟨record, rfl⟩⟩
  | cons field fields ih =>
    rw [List.forall_mem_cons]
    cases hfind : find field.name with
    | none => simp only [assemble_cons_none hfind, ih, reduceCtorEq, false_implies, implies_true,
        true_and]
    | some value =>
      rw [assemble_cons_some hfind]
      constructor
      · rintro ⟨result, hresult⟩
        obtain ⟨change, hchange, hresult⟩ := bind_eq_ok hresult
        refine ⟨?_, ih.1 ⟨result, hresult⟩⟩
        intro v hv
        exact ⟨change, Option.some.inj hv ▸ hchange⟩
      · rintro ⟨haccepts, hrest⟩
        obtain ⟨change, hchange⟩ := haccepts value rfl
        obtain ⟨result, hresult⟩ := (@ih (change record)).2 hrest
        exact ⟨result, by rw [hchange, ok_bind, hresult]⟩

/-! ### Objects -/

/-- The keys among some members that name a field, in the order of the members. -/
def declaredKeys (fields : List (Field α)) (members : Members) : List String :=
  (members.map Prod.fst).filter fun key => (field? fields key).isSome

/-- A key names a field exactly if it is among the names. -/
theorem isSome_field?_iff {fields : List (Field α)} {key : String} :
    (field? fields key).isSome = true ↔ key ∈ fields.map Field.name := by
  simp only [field?, List.find?_isSome, List.mem_map, beq_iff_eq]

theorem field?_eq_none_iff {fields : List (Field α)} {key : String} :
    field? fields key = none ↔ key ∉ fields.map Field.name := by
  rw [← isSome_field?_iff, Bool.not_eq_true, Option.isSome_eq_false_iff, Option.isNone_iff_eq_none]

theorem name_of_field? {fields : List (Field α)} {key : String} {field : Field α}
    (h : field? fields key = some field) : field.name = key := by
  simpa using List.find?_some h

/-- A declared key is a name of a field under which something is found. -/
theorem mem_declaredKeys_iff {fields : List (Field α)} {members : Members} {key : String} :
    key ∈ declaredKeys fields members ↔
      key ∈ fields.map Field.name ∧ ∃ value, Members.get? members key = some value := by
  rw [declaredKeys, List.mem_filter, isSome_field?_iff, Members.exists_get?_iff, and_comm]

/-- The members say what the record is: no field is written twice, none that is required is
missing, and all are read under their names. -/
structure SaidBy (fields : List (Field α)) (defaults : α) (members : Members) (result : α) :
    Prop where
  /-- no field is written twice -/
  unrepeated : (declaredKeys fields members).Nodup
  /-- no required field is missing -/
  complete : ∀ field ∈ fields, field.required = true →
    ∃ value, Members.get? members field.name = some value
  /-- the fields are read one by one -/
  assembled : assemble (Members.get? members) fields defaults = .ok result

theorem declaredKeys_cons_of_mem {fields : List (Field α)} {key : String}
    (h : key ∈ fields.map Field.name) (value : Value) (rest : Members) :
    declaredKeys fields ((key, value) :: rest) = key :: declaredKeys fields rest := by
  rw [declaredKeys, List.map_cons, List.filter_cons, if_pos (isSome_field?_iff.2 h)]
  rfl

theorem declaredKeys_cons_of_notMem {fields : List (Field α)} {key : String}
    (h : key ∉ fields.map Field.name) (value : Value) (rest : Members) :
    declaredKeys fields ((key, value) :: rest) = declaredKeys fields rest := by
  rw [declaredKeys, List.map_cons, List.filter_cons,
    if_neg fun hfield => h (isSome_field?_iff.1 hfield)]
  rfl

/-- A field that no member names is not found. -/
theorem get?_eq_none_of_notMem {fields : List (Field α)} {field : Field α} (hfield : field ∈ fields)
    {members : Members} (h : field.name ∉ declaredKeys fields members) :
    Members.get? members field.name = none := by
  rw [Members.get?_eq_none_iff, ← Members.exists_get?_iff]
  exact fun hfound => h (mem_declaredKeys_iff.2 ⟨List.mem_map_of_mem hfield, hfound⟩)

/-- What some members make of a draft: they name fields that it has not read, each once, and their
changes are those of the fields under their names. -/
structure Adds (fields : List (Field α)) (members : Members) (state next : Draft α) : Prop where
  /-- no field is written twice -/
  unrepeated : (declaredKeys fields members).Nodup
  /-- no field has been read before -/
  unread : ∀ key ∈ declaredKeys fields members, key ∉ state.seen
  /-- the fields are read one by one -/
  assembled : assemble (Members.get? members) fields state.record = .ok next.record
  /-- the draft has read all of them, the last one first -/
  seen : next.seen = (declaredKeys fields members).reverse ++ state.seen

/-- No members leave the draft as it is. -/
theorem adds_nil_iff {fields : List (Field α)} {state next : Draft α} :
    Adds fields [] state next ↔ state = next := by
  have hnothing : assemble (Members.get? []) fields state.record = .ok state.record :=
    assemble_none fields state.record
  constructor
  · rintro ⟨-, -, hassemble, hseen⟩
    rw [hnothing] at hassemble
    cases next
    exact congr (congrArg Draft.mk (Except.ok.inj hassemble)) hseen.symm
  · rintro rfl
    exact ⟨List.nodup_nil, List.forall_mem_nil _, hnothing, rfl⟩

/-- **An unknown member** changes neither the draft nor what is looked up. -/
theorem adds_cons_of_unknown {fields : List (Field α)} {key : String}
    (hkey : key ∉ fields.map Field.name) {value : Value} {rest : Members} {state next : Draft α} :
    Adds fields ((key, value) :: rest) state next ↔ Adds fields rest state next := by
  have hfind : ∀ field ∈ fields,
      Members.get? ((key, value) :: rest) field.name = Members.get? rest field.name := by
    intro field hfield
    refine Members.get?_cons_of_ne ?_ value rest
    rintro rfl
    exact hkey (List.mem_map_of_mem hfield)
  have hkeys := declaredKeys_cons_of_notMem hkey value rest
  have hassemble := assemble_congr hfind state.record
  constructor
  · rintro ⟨hunrepeated, hunread, hassembled, hseen⟩
    exact ⟨hkeys ▸ hunrepeated, hkeys ▸ hunread, hassemble ▸ hassembled, hkeys ▸ hseen⟩
  · rintro ⟨hunrepeated, hunread, hassembled, hseen⟩
    exact ⟨hkeys ▸ hunrepeated, hkeys ▸ hunread, hassemble.trans hassembled, hkeys ▸ hseen⟩

/-- The first member's change is made before those of the rest, wherever its field stands. -/
theorem assemble_cons_of_known {fields : List (Field α)} (hfields : Independent fields)
    {field : Field α} (hfield : field ∈ fields) {value : Value} {change : α → α}
    (hchange : field.update.ofValue value = .ok change) {rest : Members}
    (hrest : field.name ∉ declaredKeys fields rest) (record : α) :
    assemble (Members.get? ((field.name, value) :: rest)) fields record =
      assemble (Members.get? rest) fields (change record) :=
  assemble_of_found (get?_eq_none_of_notMem hfield hrest) hchange hfields.nodup
    (fun _ hother hne => hfields.commutes hfield hother hne) hfield record

/-- **A declared member** is read by its field, which must not have been read before and must not
come again. -/
theorem adds_cons_of_known {fields : List (Field α)} (hfields : Independent fields)
    {field : Field α} (hkey : field? fields field.name = some field) {value : Value}
    {rest : Members} {state next : Draft α} :
    Adds fields ((field.name, value) :: rest) state next ↔
      field.name ∉ state.seen ∧ ∃ change, field.update.ofValue value = .ok change ∧
        Adds fields rest ⟨change state.record, field.name :: state.seen⟩ next := by
  have hfield := mem_of_field? hkey
  have hkeys := declaredKeys_cons_of_mem (List.mem_map_of_mem hfield) value rest
  constructor
  · rintro ⟨hunrepeated, hunread, hassembled, hseen⟩
    rw [hkeys, List.nodup_cons] at hunrepeated
    rw [hkeys, List.forall_mem_cons] at hunread
    rw [hkeys, List.reverse_cons, List.append_assoc, List.singleton_append] at hseen
    obtain ⟨change, hchange⟩ := exists_assemble_iff.1 ⟨_, hassembled⟩ field hfield value
      (Members.get?_cons_self field.name value rest)
    rw [assemble_cons_of_known hfields hfield hchange hunrepeated.1] at hassembled
    refine ⟨hunread.1, change, hchange, hunrepeated.2, fun key hmem => ?_, hassembled, hseen⟩
    rw [List.mem_cons, not_or]
    exact ⟨fun heq => hunrepeated.1 (heq ▸ hmem), hunread.2 key hmem⟩
  · rintro ⟨hnew, change, hchange, hunrepeated, hunread, hassembled, hseen⟩
    have hrest : field.name ∉ declaredKeys fields rest := fun hmem =>
      hunread field.name hmem List.mem_cons_self
    refine ⟨hkeys ▸ List.nodup_cons.2 ⟨hrest, hunrepeated⟩, ?_, ?_, ?_⟩
    · rw [hkeys, List.forall_mem_cons]
      exact ⟨hnew, fun key hmem => (not_or.1 (List.mem_cons.not.1 (hunread key hmem))).2⟩
    · rw [assemble_cons_of_known hfields hfield hchange hrest, hassembled]
    · rw [hseen, hkeys, List.reverse_cons, List.append_assoc, List.singleton_append]

theorem memberOfValue_of_unknown {fields : List (Field α)} {key : String}
    (h : field? fields key = none) (value : Value) (state : Draft α) :
    memberOfValue fields state (key, value) = .ok state := by
  simp only [memberOfValue, h]

/-- A declared member is read if its field has not been read before and accepts its value, and then
the draft has read the field. -/
theorem memberOfValue_eq_ok_iff {fields : List (Field α)} {field : Field α}
    (h : field? fields field.name = some field) {value : Value} {state next : Draft α} :
    memberOfValue fields state (field.name, value) = .ok next ↔
      field.name ∉ state.seen ∧ ∃ change, field.update.ofValue value = .ok change ∧
        next = ⟨change state.record, field.name :: state.seen⟩ := by
  simp only [memberOfValue, h, List.contains_iff_mem]
  by_cases hseen : field.name ∈ state.seen
  · rw [if_pos hseen]
    exact iff_of_false error_ne_ok fun hnew => hnew.1 hseen
  · rw [if_neg hseen, and_iff_right hseen]
    constructor
    · intro hread
      obtain ⟨change, hchange, rfl⟩ := map_eq_ok hread
      exact ⟨change, hchange, rfl⟩
    · rintro ⟨change, hchange, rfl⟩
      rw [hchange]
      rfl

/-- Members are taken one after the other, each as the field that it names. The induction is on
the members, and each kind of member is one step. -/
theorem foldlM_memberOfValue_eq_ok_iff {fields : List (Field α)} (hfields : Independent fields)
    {members : Members} {state next : Draft α} :
    members.foldlM (memberOfValue fields) state = .ok next ↔ Adds fields members state next := by
  induction members generalizing state with
  | nil =>
    rw [adds_nil_iff]
    exact Except.ok.injEq state next ▸ Iff.rfl
  | cons member rest ih =>
    obtain ⟨key, value⟩ := member
    rw [List.foldlM_cons]
    cases hkey : field? fields key with
    | none =>
      rw [memberOfValue_of_unknown hkey, ok_bind, ih,
        adds_cons_of_unknown (field?_eq_none_iff.1 hkey)]
    | some field =>
      obtain rfl := name_of_field? hkey
      rw [adds_cons_of_known hfields hkey]
      constructor
      · intro h
        obtain ⟨between, hbetween, h⟩ := bind_eq_ok h
        obtain ⟨hnew, change, hchange, rfl⟩ := (memberOfValue_eq_ok_iff hkey).1 hbetween
        exact ⟨hnew, change, hchange, ih.1 h⟩
      · rintro ⟨hnew, change, hchange, h⟩
        rw [(memberOfValue_eq_ok_iff hkey).2 ⟨hnew, change, hchange, rfl⟩, ok_bind, ih]
        exact h

/-- A draft is finished when no required field is missing, and it is not changed by that. -/
theorem finish_eq_ok_iff {fields : List (Field α)} {state : Draft α} {result : α} :
    state.finish fields = .ok result ↔
      (∀ field ∈ fields, field.required = true → field.name ∈ state.seen) ∧
        state.record = result := by
  rw [Draft.finish]
  cases hmissing : fields.find? fun field => field.required && !state.seen.contains field.name with
  | some field =>
    refine iff_of_false error_ne_ok fun h => ?_
    have hfield := List.find?_some hmissing
    rw [Bool.and_eq_true, Bool.not_eq_true'] at hfield
    have hmem := h.1 field (List.mem_of_find?_eq_some hmissing) hfield.1
    simp [hmem] at hfield
  | none =>
    rw [List.find?_eq_none] at hmissing
    have hcomplete : ∀ field ∈ fields, field.required = true → field.name ∈ state.seen := by
      intro field hfield hrequired
      simpa [hrequired] using hmissing field hfield
    simp only [Except.ok.injEq]
    exact ⟨fun h => ⟨hcomplete, h⟩, fun h => h.2⟩

/-- **Members in any order**: an object is read as the record that its members say. -/
theorem record_obj_eq_ok_iff {name : String} {fields : List (Field α)}
    (hfields : Independent fields) {defaults result : α} {members : Members} :
    (record name fields defaults).ofValue (.obj members) = .ok result ↔
      SaidBy fields defaults members result := by
  have hread : (record name fields defaults).ofValue (.obj members) =
      members.foldlM (memberOfValue fields) ⟨defaults, []⟩ >>= fun state =>
        state.finish fields := by
    simp only [record]
    cases members.foldlM (memberOfValue fields) ⟨defaults, []⟩ <;> rfl
  have hcomplete : (∀ field ∈ fields, field.required = true →
        field.name ∈ (declaredKeys fields members).reverse ++ []) ↔
      ∀ field ∈ fields, field.required = true →
        ∃ value, Members.get? members field.name = some value := by
    refine forall₂_congr fun field hfield => imp_congr_right fun _ => ?_
    rw [List.append_nil, List.mem_reverse, mem_declaredKeys_iff]
    exact and_iff_right (List.mem_map_of_mem hfield)
  rw [hread]
  constructor
  · intro h
    obtain ⟨state, hfold, hfinish⟩ := bind_eq_ok h
    obtain ⟨hnodup, -, hassemble, hseen⟩ := (foldlM_memberOfValue_eq_ok_iff hfields).1 hfold
    obtain ⟨hread, rfl⟩ := finish_eq_ok_iff.1 hfinish
    rw [hseen] at hread
    exact ⟨hnodup, hcomplete.1 hread, hassemble⟩
  · intro h
    have hfold : members.foldlM (memberOfValue fields) ⟨defaults, []⟩ =
        .ok ⟨result, (declaredKeys fields members).reverse ++ []⟩ :=
      (foldlM_memberOfValue_eq_ok_iff hfields).2
        ⟨h.unrepeated, fun _ _ => List.not_mem_nil, h.assembled, rfl⟩
    rw [hfold, ok_bind]
    exact finish_eq_ok_iff.2 ⟨hcomplete.2 h.complete, rfl⟩

/-! ### Arrays -/

/-- No position is missing exactly if no field is required; where the first of them stands is for
the message only. -/
theorem missingPosition_eq_none_iff (position : Nat) {fields : List (Field α)} :
    missingPosition position fields = none ↔ ∀ field ∈ fields, field.required = false := by
  induction fields generalizing position with
  | nil => exact ⟨fun _ _ h => absurd h List.not_mem_nil, fun _ => rfl⟩
  | cons field fields ih =>
    rw [missingPosition, List.forall_mem_cons]
    cases field.required with
    | true => simp
    | false => simp [ih]

/-- Items stand in the places of fields: there are not more of them, no field that is required is
without one, and they are read one by one under the names of the fields. -/
structure Placed (fields : List (Field α)) (items : List Value) (record result : α) : Prop where
  /-- there are not more items than fields -/
  length : items.length ≤ fields.length
  /-- no required field is missing -/
  complete : ∀ field ∈ fields, field.required = true →
    ∃ value, Members.get? ((fields.map Field.name).zip items) field.name = some value
  /-- the fields are read one by one -/
  assembled :
    assemble (Members.get? ((fields.map Field.name).zip items)) fields record = .ok result

/-- **A missing item** stands for itself and all behind it: none of these fields may be required. -/
theorem placed_nil_iff {fields : List (Field α)} {record result : α} :
    Placed fields [] record result ↔
      (∀ field ∈ fields, field.required = false) ∧ record = result := by
  have hnothing : assemble (Members.get? ((fields.map Field.name).zip [])) fields record =
      .ok record := by
    rw [List.zip_nil_right]
    exact assemble_none _ _
  constructor
  · rintro ⟨-, hcomplete, hassembled⟩
    refine ⟨fun field hfield => ?_, Except.ok.inj (hnothing.symm.trans hassembled)⟩
    by_contra hrequired
    obtain ⟨value, hvalue⟩ := hcomplete field hfield (Bool.not_eq_false _ ▸ hrequired)
    rw [List.zip_nil_right] at hvalue
    cases hvalue
  · rintro ⟨hoptional, rfl⟩
    refine ⟨Nat.zero_le _, fun field hfield hrequired => ?_, hnothing⟩
    rw [hoptional field hfield] at hrequired
    cases hrequired

/-- **A present item** is read by the first field, and the others by the fields behind it. -/
theorem placed_cons_iff {field : Field α} {fields : List (Field α)}
    (hnames : ((field :: fields).map Field.name).Nodup) {item : Value} {items : List Value}
    {record result : α} :
    Placed (field :: fields) (item :: items) record result ↔
      ∃ change, field.update.ofValue item = .ok change ∧
        Placed fields items (change record) result := by
  have hfirst : Members.get? (((field :: fields).map Field.name).zip (item :: items)) field.name =
      some item := Members.get?_cons_self _ _ _
  have hothers : ∀ other ∈ fields,
      Members.get? (((field :: fields).map Field.name).zip (item :: items)) other.name =
        Members.get? ((fields.map Field.name).zip items) other.name := by
    intro other hother
    refine Members.get?_cons_of_ne (fun heq => ?_) _ _
    exact (List.nodup_cons.1 hnames).1 (List.mem_map.2 ⟨other, hother, heq.symm⟩)
  constructor
  · rintro ⟨hlength, hcomplete, hassembled⟩
    rw [assemble_cons_some hfirst] at hassembled
    obtain ⟨change, hchange, hassembled⟩ := bind_eq_ok hassembled
    rw [assemble_congr hothers] at hassembled
    refine ⟨change, hchange, Nat.le_of_succ_le_succ hlength, ?_, hassembled⟩
    intro other hother hrequired
    rw [← hothers other hother]
    exact hcomplete other (List.mem_cons_of_mem _ hother) hrequired
  · rintro ⟨change, hchange, hlength, hcomplete, hassembled⟩
    refine ⟨Nat.succ_le_succ hlength, List.forall_mem_cons.2 ⟨fun _ => ⟨item, hfirst⟩, ?_⟩, ?_⟩
    · intro other hother hrequired
      rw [hothers other hother]
      exact hcomplete other hother hrequired
    · rw [assemble_cons_some hfirst, hchange, ok_bind, assemble_congr hothers, hassembled]

/-- Without an item left, the record is finished if no field behind is required. -/
theorem positionalOfValue_nil_eq_ok_iff {lengthError : Nat → Mismatch} {total position : Nat}
    {fields : List (Field α)} {record result : α} :
    positionalOfValue lengthError total position fields record [] = .ok result ↔
      (∀ field ∈ fields, field.required = false) ∧ record = result := by
  cases fields with
  | nil =>
    rw [positionalOfValue, Except.ok.injEq]
    exact (and_iff_right (List.forall_mem_nil _)).symm
  | cons field fields =>
    rw [positionalOfValue, ← missingPosition_eq_none_iff position]
    cases missingPosition position (field :: fields) with
    | none => simp only [Except.ok.injEq, true_and]
    | some missing => exact iff_of_false error_ne_ok fun h => Option.some_ne_none _ h.1

/-- An item is read by the field in its place, and then the rest by the fields behind it. How many
items there were and where the item stands matters for messages only. -/
theorem positionalOfValue_cons_eq_ok_iff {lengthError : Nat → Mismatch} {total position : Nat}
    {field : Field α} {fields : List (Field α)} {item : Value} {items : List Value}
    {record result : α} :
    positionalOfValue lengthError total position (field :: fields) record (item :: items) =
        .ok result ↔
      ∃ change, field.update.ofValue item = .ok change ∧
        positionalOfValue lengthError total (position + 1) fields (change record) items =
          .ok result := by
  rw [positionalOfValue]
  cases field.update.ofValue item with
  | error difference =>
    refine iff_of_false error_ne_ok ?_
    rintro ⟨change, hchange, -⟩
    exact error_ne_ok hchange
  | ok change => simp only [Except.ok.injEq, exists_eq_left']

/-- Items are taken as the fields in whose places they stand. The induction is on the fields, with
a step for an item that is missing and one for an item that is there. -/
theorem positionalOfValue_eq_ok_iff {lengthError : Nat → Mismatch} {total : Nat}
    {fields : List (Field α)} (hnames : (fields.map Field.name).Nodup) {items : List Value}
    {position : Nat} {record result : α} :
    positionalOfValue lengthError total position fields record items = .ok result ↔
      Placed fields items record result := by
  induction fields generalizing items position record with
  | nil =>
    cases items with
    | nil => rw [positionalOfValue_nil_eq_ok_iff, placed_nil_iff]
    | cons item items => exact iff_of_false error_ne_ok fun h => Nat.not_succ_le_zero _ h.length
  | cons field fields ih =>
    cases items with
    | nil => rw [positionalOfValue_nil_eq_ok_iff, placed_nil_iff]
    | cons item items =>
      rw [positionalOfValue_cons_eq_ok_iff, placed_cons_iff hnames]
      exact exists_congr fun change => and_congr_right fun _ => ih (List.nodup_cons.1 hnames).2

/-- **Items by position**: an array is read like the object that has its items under the names
of the fields, and must not have more items than there are fields. -/
theorem record_arr_eq_ok_iff {name : String} {fields : List (Field α)}
    (hnames : (fields.map Field.name).Nodup) {defaults result : α} {items : List Value} :
    (record name fields defaults).ofValue (.arr items) = .ok result ↔
      items.length ≤ fields.length ∧
        SaidBy fields defaults ((fields.map Field.name).zip items) result := by
  have hunrepeated : (declaredKeys fields ((fields.map Field.name).zip items)).Nodup := by
    exact List.Nodup.filter _ (hnames.sublist (Members.keys_zip_sublist _ items))
  refine (positionalOfValue_eq_ok_iff hnames).trans ⟨fun h => ?_, fun h => ?_⟩
  · exact ⟨h.length, hunrepeated, h.complete, h.assembled⟩
  · exact ⟨h.1, h.2.complete, h.2.assembled⟩

/-! ### Either form -/

/-- The members of a record that is written as an object or as an array. -/
def writtenMembers (fields : List (Field α)) : Value → Option Members
  | .obj members => some members
  | .arr items =>
    if items.length ≤ fields.length then some ((fields.map Field.name).zip items) else none
  | _ => none

/-- **Either form.** A record is read as what its members say, where an array has its items for
members, under the names of the fields. From here on the two forms are not told apart. -/
theorem record_eq_ok_iff {name : String} {fields : List (Field α)} (hfields : Independent fields)
    {defaults result : α} {value : Value} :
    (record name fields defaults).ofValue value = .ok result ↔
      ∃ members, writtenMembers fields value = some members ∧
        SaidBy fields defaults members result := by
  cases value with
  | obj members =>
    rw [record_obj_eq_ok_iff hfields]
    simp [writtenMembers]
  | arr items =>
    rw [record_arr_eq_ok_iff hfields.nodup]
    simp only [writtenMembers, Option.ite_none_right_eq_some, Option.some.injEq]
    constructor
    · exact fun h => ⟨_, ⟨h.1, rfl⟩, h.2⟩
    · rintro ⟨_, ⟨hlength, rfl⟩, h⟩
      exact ⟨hlength, h⟩
  | _ =>
    refine iff_of_false error_ne_ok ?_
    rintro ⟨_, h, -⟩
    cases h

/-- The field can be read from what is found under its name. -/
def Field.Admits (field : Field α) : Option Value → Prop
  | none => field.required = false
  | some value => field.update.Accepts value

/-- A record is accepted when each of its fields is. -/
theorem accepts_record_iff {name : String} {fields : List (Field α)} (hfields : Independent fields)
    {defaults : α} {value : Value} :
    (record name fields defaults).Accepts value ↔
      ∃ members, writtenMembers fields value = some members ∧
        (declaredKeys fields members).Nodup ∧
        ∀ field ∈ fields, field.Admits (Members.get? members field.name) := by
  constructor
  · rintro ⟨result, hresult⟩
    obtain ⟨members, hmembers, hsaid⟩ := (record_eq_ok_iff hfields).1 hresult
    refine ⟨members, hmembers, hsaid.unrepeated, fun field hfield => ?_⟩
    cases hfind : Members.get? members field.name with
    | none =>
      rw [Field.Admits, ← Bool.not_eq_true]
      intro hrequired
      obtain ⟨value, hvalue⟩ := hsaid.complete field hfield hrequired
      rw [hfind] at hvalue
      cases hvalue
    | some value => exact exists_assemble_iff.1 ⟨result, hsaid.assembled⟩ field hfield value hfind
  · rintro ⟨members, hmembers, hunrepeated, hadmits⟩
    have haccepts : ∀ field ∈ fields, ∀ value, Members.get? members field.name = some value →
        field.update.Accepts value := by
      intro field hfield value hfind
      have h := hadmits field hfield
      rwa [hfind] at h
    have hcomplete : ∀ field ∈ fields, field.required = true →
        ∃ value, Members.get? members field.name = some value := by
      intro field hfield hrequired
      have h := hadmits field hfield
      cases hfind : Members.get? members field.name with
      | none =>
        rw [hfind, Field.Admits, hrequired] at h
        cases h
      | some value => exact ⟨value, rfl⟩
    obtain ⟨result, hresult⟩ := (@exists_assemble_iff _ _ _ defaults).2 haccepts
    exact ⟨result, (record_eq_ok_iff hfields).2
      ⟨members, hmembers, hunrepeated, hcomplete, hresult⟩⟩

end Decoder

end Json

end FlowScript
