import FlowScript.Json.Decoder
import FlowScript.Proofs.OrderedMap
import FlowScript.Workflow.Encoding
import Mathlib.Data.List.Nodup

/-!
# Reading values

What decoders make of values in memory. Two questions are answered for every shape:

* what holds of everything that is read, whatever the value (`record_keeps`,
  `forall_of_list`): a property that no single field can break holds of the whole record;
* what is read from the written form of something (`record_of_spells`, `list_map`,
  `table_toValue`): it is read back, if its parts are.

The written form of a record is described field by field (`Spells`), so that a field that
is left out is a step like any other.
-/

namespace FlowScript

namespace Json

/-! ### Results -/

/-- A result that was changed was there before the change. With this and the next lemma a
computation is taken apart from its end, without unfolding it. -/
theorem map_eq_ok {ε α β : Type} {f : α → β} {result : Except ε α} {b : β}
    (h : result.map f = .ok b) : ∃ a, result = .ok a ∧ f a = b := by
  cases result with
  | error e => cases h
  | ok a => exact ⟨a, rfl, Except.ok.inj h⟩

/-- A computation in two steps succeeded only if the first step did, and the second on what the
first gave. -/
theorem bind_eq_ok {ε α β : Type} {f : α → Except ε β} {result : Except ε α} {b : β}
    (h : result >>= f = .ok b) : ∃ a, result = .ok a ∧ f a = .ok b := by
  cases result with
  | error e => cases h
  | ok a => exact ⟨a, rfl, h⟩

/-- And it did succeed then, so that steps can be peeled off both sides of an equivalence. -/
theorem bind_eq_ok_iff {ε α β : Type} {f : α → Except ε β} {result : Except ε α} {b : β} :
    result >>= f = .ok b ↔ ∃ a, result = .ok a ∧ f a = .ok b := by
  refine ⟨bind_eq_ok, ?_⟩
  rintro ⟨a, rfl, h⟩
  exact h

/-- To forget why something failed is not to forget what it gave. -/
theorem toOption_eq_some_iff {ε α : Type} {result : Except ε α} {a : α} :
    result.toOption = some a ↔ result = .ok a := by
  cases result with
  | error e => exact iff_of_false (Option.some_ne_none a).symm fun h => by cases h
  | ok b => rw [Except.toOption, Option.some.injEq, Except.ok.injEq]

/-- That something succeeds, as a proposition: what it gives is there to be named. -/
theorem isOk_iff {ε α : Type} {result : Except ε α} :
    result.isOk = true ↔ ∃ a, result = .ok a := by
  cases result with
  | error e =>
    refine iff_of_false Bool.false_ne_true ?_
    rintro ⟨a, h⟩
    cases h
  | ok a => exact iff_of_true rfl ⟨a, rfl⟩

/-- Wording a failure differently does not make it a success. -/
theorem mapError_eq_ok_iff {ε δ α : Type} {f : ε → δ} {result : Except ε α} {a : α} :
    result.mapError f = .ok a ↔ result = .ok a := by
  cases result with
  | error e => exact ⟨nofun, nofun⟩
  | ok b =>
    change Except.ok b = .ok a ↔ _
    rw [Except.ok.injEq, Except.ok.injEq]

theorem error_ne_ok {ε α : Type} {e : ε} {a : α} : (Except.error e : Except ε α) ≠ .ok a := by
  intro h
  cases h

theorem ok_bind {ε α β : Type} (a : α) (f : α → Except ε β) : (Except.ok a >>= f) = f a := rfl

namespace Decoder

variable {α : Type}

/-! ### What holds of all that is read -/

/-- Whatever a field reads, it does not break the property. -/
def Field.Keeps (P : α → Prop) (field : Field α) : Prop :=
  ∀ value change, field.update.ofValue value = .ok change → ∀ record, P record → P (change record)

/-- A field keeps a property when the values that it sets do. -/
theorem Field.keeps_of {β : Type} {P : α → Prop} {Q : β → Prop} {name : String} {required : Bool}
    {decoder : Decoder β} {set : β → α → α} (hread : ∀ value b, decoder.ofValue value = .ok b → Q b)
    (hset : ∀ b record, Q b → P record → P (set b record)) :
    Field.Keeps P ⟨name, required, decoder.map set⟩ := by
  intro value change hchange record hrecord
  obtain ⟨b, hb, rfl⟩ := map_eq_ok hchange
  exact hset b record (hread value b hb) hrecord

/-- A field keeps a property that does not look at it. -/
theorem Field.keeps_of_set {β : Type} {P : α → Prop} {name : String} {required : Bool}
    {decoder : Decoder β} {set : β → α → α} (hset : ∀ b record, P record → P (set b record)) :
    Field.Keeps P ⟨name, required, decoder.map set⟩ := by
  intro value change hchange record hrecord
  obtain ⟨b, -, rfl⟩ := map_eq_ok hchange
  exact hset b record hrecord

theorem mem_of_field? {fields : List (Field α)} {key : String} {field : Field α}
    (h : field? fields key = some field) : field ∈ fields :=
  List.mem_of_find?_eq_some h

/-- **Step.** One member changes the record by what its field reads, or not at all. -/
theorem memberOfValue_keeps {P : α → Prop} {fields : List (Field α)}
    (hfields : ∀ field ∈ fields, field.Keeps P) {state next : Draft α} {member : String × Value}
    (h : memberOfValue fields state member = .ok next) (hstate : P state.record) :
    P next.record := by
  rw [memberOfValue] at h
  cases hfield : field? fields member.1 with
  | none =>
    rw [hfield] at h
    rw [← Except.ok.inj h]
    exact hstate
  | some field =>
    rw [hfield] at h
    dsimp only at h
    split at h
    · cases h
    · obtain ⟨change, hchange, rfl⟩ := map_eq_ok h
      exact hfields field (mem_of_field? hfield) member.2 change hchange state.record hstate

/-- **Run.** So a property that no field breaks holds behind all members if it held before the
first. -/
theorem foldlM_memberOfValue_keeps {P : α → Prop} {fields : List (Field α)}
    (hfields : ∀ field ∈ fields, field.Keeps P) {members : Members} {state next : Draft α}
    (h : members.foldlM (memberOfValue fields) state = .ok next) (hstate : P state.record) :
    P next.record := by
  induction members generalizing state with
  | nil =>
    rw [← Except.ok.inj h]
    exact hstate
  | cons member rest ih =>
    rw [List.foldlM_cons] at h
    obtain ⟨between, hbetween, hrest⟩ := bind_eq_ok h
    exact ih hrest (memberOfValue_keeps hfields hbetween hstate)

/-- The same for items by position: the induction is on the fields, of which each takes one item or
is left as it was. -/
theorem positionalOfValue_keeps {P : α → Prop} {fields : List (Field α)}
    (hfields : ∀ field ∈ fields, field.Keeps P) {lengthError : Nat → Mismatch}
    {total position : Nat}
    {items : List Value} {record result : α}
    (h : positionalOfValue lengthError total position fields record items = .ok result)
    (hrecord : P record) : P result := by
  induction fields generalizing position items record with
  | nil =>
    cases items with
    | nil =>
      rw [← Except.ok.inj h]
      exact hrecord
    | cons => cases h
  | cons field fields ih =>
    cases items with
    | nil =>
      rw [positionalOfValue] at h
      split at h
      · cases h
      · rw [← Except.ok.inj h]
        exact hrecord
    | cons item items =>
      rw [positionalOfValue] at h
      split at h
      · cases h
      · next change hchange =>
        refine ih (fun other hother => hfields other (List.mem_cons_of_mem _ hother)) h ?_
        exact hfields field List.mem_cons_self item change hchange record hrecord

/-- A property of the defaults that no field breaks holds of every record that is read. -/
theorem record_keeps {P : α → Prop} {name : String} {fields : List (Field α)} {defaults : α}
    (hfields : ∀ field ∈ fields, field.Keeps P) (hdefaults : P defaults) {value : Value}
    {result : α}
    (h : (record name fields defaults).ofValue value = .ok result) : P result := by
  cases value with
  | obj members =>
    simp only [record] at h
    split at h
    · cases h
    · next state hstate =>
      have hkept : P state.record := foldlM_memberOfValue_keeps hfields hstate hdefaults
      rw [Draft.finish] at h
      split at h
      · cases h
      · rw [← Except.ok.inj h]
        exact hkept
  | arr items => exact positionalOfValue_keeps hfields h hdefaults
  | null => cases h
  | bool => cases h
  | num => cases h
  | str => cases h

/-- A list is read item by item, and every item of the result was read from some value. -/
theorem forall_of_mapM {P : α → Prop} {item : Decoder α}
    (hitem : ∀ value a, item.ofValue value = .ok a → P a) {values : List Value} {as : List α}
    (h : values.mapM item.ofValue = .ok as) : ∀ a ∈ as, P a := by
  induction values generalizing as with
  | nil =>
    rw [← Except.ok.inj h]
    intro a ha
    cases ha
  | cons value rest ih =>
    rw [List.mapM_cons] at h
    obtain ⟨first, hfirst, h⟩ := bind_eq_ok h
    obtain ⟨others, hothers, h⟩ := bind_eq_ok h
    rw [← Except.ok.inj h]
    intro a ha
    rcases List.mem_cons.1 ha with rfl | ha
    · exact hitem value _ hfirst
    · exact ih hothers a ha

/-- What holds of every item that is read holds of all items of a list that is read. -/
theorem forall_of_list {P : α → Prop} {item : Decoder α}
    (hitem : ∀ value a, item.ofValue value = .ok a → P a) {value : Value} {as : List α}
    (h : (list item).ofValue value = .ok as) : ∀ a ∈ as, P a := by
  cases value with
  | arr values => exact forall_of_mapM hitem h
  | null => cases h
  | bool => cases h
  | num => cases h
  | str => cases h
  | obj => cases h

/-! ### Reading back what was written -/

/-- The members spell out the fields in their order, and change the record from `before`
to `after`; fields that are not required may be left out. -/
inductive Spells : List (Field α) → Members → α → α → Prop where
  /-- no field is left -/
  | done (record : α) : Spells [] [] record record
  /-- the next field is left out -/
  | skip {field : Field α} {fields : List (Field α)} {members : Members} {before after : α}
      (hfield : field.required = false) (hrest : Spells fields members before after) :
      Spells (field :: fields) members before after
  /-- the next field is written -/
  | take {field : Field α} {fields : List (Field α)} {members : Members} {value : Value}
      {change : α → α} {before after : α} (hfield : field.update.ofValue value = .ok change)
      (hrest : Spells fields members (change before) after) :
      Spells (field :: fields) ((field.name, value) :: members) before after

/-- A written field sets what its value is read as. -/
theorem Spells.set {β : Type} {name : String} {required : Bool} {decoder : Decoder β}
    {set : β → α → α} {fields : List (Field α)} {members : Members} {value : Value} {b : β}
    {before after : α} (hvalue : decoder.ofValue value = .ok b)
    (hrest : Spells fields members (set b before) after) :
    Spells (⟨name, required, decoder.map set⟩ :: fields) ((name, value) :: members)
      before after := by
  refine .take ?_ hrest
  change (decoder.ofValue value).map set = _
  rw [hvalue]
  rfl

/-- A field that is written only when there is a value sets it, or keeps its default. -/
theorem Spells.setOptional {β : Type} {name : String} {decoder : Decoder β} {set : β → α → α}
    {fields : List (Field α)} {members : Members} {written : Option Value} {b : β}
    {before after : α} (hvalue : ∀ value, written = some value → decoder.ofValue value = .ok b)
    (hdefault : written = none → set b before = before)
    (hrest : Spells fields members (set b before) after) :
    Spells (⟨name, false, decoder.map set⟩ :: fields) (Members.optional name written ++ members)
      before after := by
  cases written with
  | none =>
    rw [hdefault rfl] at hrest
    exact .skip rfl hrest
  | some value => exact .set (hvalue value rfl) hrest

/-- A field is found by its name if no other has it. -/
theorem field?_name {fields : List (Field α)} (hnames : (fields.map Field.name).Nodup)
    {field : Field α} (h : field ∈ fields) : field? fields field.name = some field := by
  cases hfound : field? fields field.name with
  | none =>
    rw [field?, List.find?_eq_none] at hfound
    exact absurd (beq_self_eq_true field.name) (hfound field h)
  | some other =>
    have hname : other.name = field.name := by
      simpa using List.find?_some hfound
    rw [List.inj_on_of_nodup_map hnames (mem_of_field? hfound) h hname]

/-- Members that spell out some fields are read one after the other, as long as none of
these fields has been read before. -/
theorem foldlM_of_spells {all fields : List (Field α)} (hall : (all.map Field.name).Nodup)
    (hsub : ∀ field ∈ fields, field ∈ all) (hnames : (fields.map Field.name).Nodup)
    {members : Members} {before after : α} (h : Spells fields members before after)
    {seen : List String} (hnew : ∀ field ∈ fields, field.name ∉ seen) :
    ∃ read, members.foldlM (memberOfValue all) ⟨before, seen⟩ = .ok ⟨after, read⟩ ∧
      (∀ name ∈ seen, name ∈ read) ∧
      ∀ field ∈ fields, field.required = true → field.name ∈ read := by
  induction h generalizing seen with
  | done record =>
    exact ⟨seen, rfl, fun _ h => h, fun field h => absurd h List.not_mem_nil⟩
  | @skip field fields members before after hfield hrest ih =>
    have hnames := (List.nodup_cons.1 hnames).2
    obtain ⟨read, hread, hseen, hrequired⟩ :=
      ih (fun other h => hsub other (List.mem_cons_of_mem _ h)) hnames
        fun other h => hnew other (List.mem_cons_of_mem _ h)
    refine ⟨read, hread, hseen, ?_⟩
    intro other hother hreq
    rcases List.mem_cons.1 hother with rfl | hother
    · rw [hfield] at hreq
      cases hreq
    · exact hrequired other hother hreq
  | @take field fields members value change before after hfield hrest ih =>
    obtain ⟨hname, hnames⟩ := List.nodup_cons.1 hnames
    have hother : ∀ other ∈ fields, other.name ∉ field.name :: seen := by
      intro other hother hmem
      rcases List.mem_cons.1 hmem with heq | hmem
      · exact hname (List.mem_map.2 ⟨other, hother, heq⟩)
      · exact hnew other (List.mem_cons_of_mem _ hother) hmem
    obtain ⟨read, hread, hseen, hrequired⟩ :=
      ih (fun other h => hsub other (List.mem_cons_of_mem _ h)) hnames hother
    refine ⟨read, ?_, fun name h => hseen name (List.mem_cons_of_mem _ h), ?_⟩
    · have hstep : memberOfValue all ⟨before, seen⟩ (field.name, value) =
          .ok ⟨change before, field.name :: seen⟩ := by
        have hunread : seen.contains field.name = false := by
          simpa using hnew field List.mem_cons_self
        simp only [memberOfValue, field?_name hall (hsub field List.mem_cons_self), hunread,
          Bool.false_eq_true, if_false, hfield]
        rfl
      rw [List.foldlM_cons, hstep, ok_bind]
      exact hread
    · intro other hother hreq
      rcases List.mem_cons.1 hother with rfl | hother
      · exact hseen _ List.mem_cons_self
      · exact hrequired other hother hreq

/-- A record is read back from members that spell out its fields. -/
theorem record_of_spells {name : String} {fields : List (Field α)}
    (hnames : (fields.map Field.name).Nodup) {members : Members} {defaults result : α}
    (h : Spells fields members defaults result) :
    (record name fields defaults).ofValue (.obj members) = .ok result := by
  have hnew : ∀ field ∈ fields, field.name ∉ ([] : List String) := fun _ _ => List.not_mem_nil
  obtain ⟨read, hread, -, hrequired⟩ := foldlM_of_spells hnames (fun _ h => h) hnames h hnew
  have hcomplete :
      (fields.find? fun field => field.required && !read.contains field.name) = none := by
    rw [List.find?_eq_none]
    intro field hfield hmissing
    rw [Bool.and_eq_true, Bool.not_eq_true'] at hmissing
    have hmem := hrequired field hfield hmissing.1
    simp [hmem] at hmissing
  simp only [record, hread, Draft.finish, hcomplete]

/-- A list is read back if each of its items is. -/
theorem list_map {item : Decoder α} {write : α → Value} {as : List α}
    (h : ∀ a ∈ as, item.ofValue (write a) = .ok a) :
    (list item).ofValue (.arr (as.map write)) = .ok as := by
  change (as.map write).mapM item.ofValue = .ok as
  induction as with
  | nil => rfl
  | cons a rest ih =>
    rw [List.map_cons, List.mapM_cons, h a List.mem_cons_self, ok_bind,
      ih fun b hb => h b (List.mem_cons_of_mem _ hb), ok_bind]
    rfl

/-- The members of a written map are inserted one after the other. -/
theorem foldlM_insert_map {item : Decoder α} {write : α → Value} {entries : List (String × α)}
    (h : ∀ entry ∈ entries, item.ofValue (write entry.2) = .ok entry.2) (start : OrderedMap α) :
    (entries.map fun (key, a) => (key, write a)).foldlM
        (fun state (key, v) => (item.ofValue v).map (OrderedMap.insert state key)) start =
      Except.ok (entries.foldl (fun state entry => state.insert entry.1 entry.2) start) := by
  induction entries generalizing start with
  | nil => rfl
  | cons entry rest ih =>
    obtain ⟨key, a⟩ := entry
    have ha : item.ofValue (write a) = .ok a := h (key, a) List.mem_cons_self
    rw [List.map_cons, List.foldlM_cons, List.foldl_cons]
    dsimp only
    rw [ha]
    exact ih (fun other hother => h other (List.mem_cons_of_mem _ hother)) (start.insert key a)

/-- A map is read back if each of its values is. -/
theorem table_toValue {item : Decoder α} {write : α → Value} {m : OrderedMap α}
    (h : ∀ entry ∈ m.entries, item.ofValue (write entry.2) = .ok entry.2) :
    (table item .empty OrderedMap.insert).ofValue (OrderedMap.toValue write m) = .ok m := by
  have hread := foldlM_insert_map h .empty
  rw [OrderedMap.foldl_insert_entries] at hread
  exact hread

end Decoder

end Json

end FlowScript
