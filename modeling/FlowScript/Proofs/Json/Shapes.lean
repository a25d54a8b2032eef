import FlowScript.Proofs.Json.Fields
import FlowScript.Proofs.Json.Parts

/-!
# Shapes of values

Which values a decoder accepts is told by a test that looks at the value alone
(`Decoder.RecognizedBy`). Tests are put together as decoders are: a list is accepted when all
of its items are (`recognizedBy_list`), a table when all of its values are
(`recognizedBy_table`), and a record when its fields are, wherever they are found
(`recognizedBy_record`).

A test is about documents, in which no object has a key twice. A record refuses a key that comes
again, and looking members up does not see it.
-/

namespace FlowScript

namespace Json

/-! ### Tests -/

namespace Value

/-- A string. -/
def isText : Value → Bool
  | .str _ => true
  | _ => false

/-- A truth value. -/
def isFlag : Value → Bool
  | .bool _ => true
  | _ => false

/-- A number. -/
def isNumber : Value → Bool
  | .num _ => true
  | _ => false

/-- An integer from zero up, within 64 bits. -/
def isIndex : Value → Bool
  | .num (.int i) => 0 ≤ i.val && i.val < 18446744073709551616
  | _ => false

/-- An object. -/
def isObject : Value → Bool
  | .obj _ => true
  | _ => false

/-- An array whose items pass a test. -/
def isListOf (item : Value → Bool) : Value → Bool
  | .arr items => items.all item
  | _ => false

/-- An object whose values pass a test. -/
def isTableOf (item : Value → Bool) : Value → Bool
  | .obj members => members.all fun member => item member.2
  | _ => false

/-- A weaker test of the items is a weaker test of the list. -/
theorem isListOf_imp {test other : Value → Bool} (h : ∀ v, test v = true → other v = true)
    (v : Value) (hv : isListOf test v = true) : isListOf other v = true := by
  cases v with
  | arr items =>
    rw [isListOf, List.all_eq_true] at hv ⊢
    exact fun item hitem => h item (hv item hitem)
  | _ => cases hv

theorem isTableOf_imp {test other : Value → Bool} (h : ∀ v, test v = true → other v = true)
    (v : Value) (hv : isTableOf test v = true) : isTableOf other v = true := by
  cases v with
  | obj members =>
    rw [isTableOf, List.all_eq_true] at hv ⊢
    exact fun member hmember => h member.2 (hv member hmember)
  | _ => cases hv

end Value

namespace Decoder

variable {α β : Type}

/-! ### Acceptance of composed shapes -/

theorem not_accepts_of_eq_error {decoder : Decoder α} {value : Value} {difference : Mismatch}
    (h : decoder.ofValue value = .error difference) : ¬ decoder.Accepts value := by
  rintro ⟨a, ha⟩
  rw [h] at ha
  cases ha

/-- A change to what is read does not change what is accepted. -/
theorem accepts_map {decoder : Decoder α} {f : α → β} {value : Value} :
    (decoder.map f).Accepts value ↔ decoder.Accepts value := by
  constructor
  · rintro ⟨b, hb⟩
    obtain ⟨a, ha, -⟩ := map_eq_ok hb
    exact ⟨a, ha⟩
  · rintro ⟨a, ha⟩
    refine ⟨f a, ?_⟩
    change (decoder.ofValue value).map f = _
    rw [ha]
    rfl

/-- A list is accepted when all of its items are. The reader stops at the first item that is not, so
the induction is on the items, with the reading of the rest in hand. -/
theorem accepts_list_iff {item : Decoder α} {items : List Value} :
    (list item).Accepts (.arr items) ↔ ∀ value ∈ items, item.Accepts value := by
  change (∃ as, items.mapM item.ofValue = .ok as) ↔ _
  induction items with
  | nil => exact ⟨fun _ _ h => absurd h List.not_mem_nil, fun _ => ⟨[], rfl⟩⟩
  | cons value rest ih =>
    rw [List.forall_mem_cons, ← ih, List.mapM_cons]
    constructor
    · rintro ⟨as, has⟩
      obtain ⟨a, ha, has⟩ := bind_eq_ok has
      obtain ⟨others, hothers, -⟩ := bind_eq_ok has
      exact ⟨⟨a, ha⟩, others, hothers⟩
    · rintro ⟨⟨a, ha⟩, others, hothers⟩
      rw [ha, ok_bind, hothers, ok_bind]
      exact ⟨a :: others, rfl⟩

/-- A table is accepted when all of its values are; what has been collected before does not matter
for that. -/
theorem accepts_table_iff {σ : Type} {item : Decoder α} {empty : σ} {insert : σ → String → α → σ}
    {members : Members} :
    (table item empty insert).Accepts (.obj members) ↔
      ∀ member ∈ members, item.Accepts member.2 := by
  change (∃ state, members.foldlM
    (fun state member => (item.ofValue member.2).map (insert state member.1)) empty = .ok state) ↔ _
  induction members generalizing empty with
  | nil => exact ⟨fun _ _ h => absurd h List.not_mem_nil, fun _ => ⟨empty, rfl⟩⟩
  | cons member rest ih =>
    obtain ⟨key, v⟩ := member
    rw [List.forall_mem_cons, List.foldlM_cons]
    constructor
    · rintro ⟨state, hstate⟩
      obtain ⟨between, hbetween, hstate⟩ := bind_eq_ok hstate
      obtain ⟨a, ha, -⟩ := map_eq_ok hbetween
      exact ⟨⟨a, ha⟩, ih.1 ⟨state, hstate⟩⟩
    · rintro ⟨⟨a, ha⟩, hrest⟩
      obtain ⟨state, hstate⟩ := (@ih (insert empty key a)).2 hrest
      refine ⟨state, ?_⟩
      dsimp only
      rw [ha]
      exact hstate

/-! ### Recognition -/

/-- The decoder accepts the documents that pass the test, and no others. -/
def RecognizedBy (decoder : Decoder α) (test : Value → Bool) : Prop :=
  ∀ document : Document, decoder.Accepts document.value ↔ test document.value = true

/-- A test can be put differently, as long as it says the same of every value. -/
theorem RecognizedBy.congr {decoder : Decoder α} {test other : Value → Bool}
    (h : decoder.RecognizedBy test) (heq : ∀ value, test value = other value) :
    decoder.RecognizedBy other :=
  fun document => heq document.value ▸ h document

theorem recognizedBy_text : text.RecognizedBy Value.isText := by
  rintro ⟨value, -⟩
  cases value with
  | str s => exact ⟨fun _ => rfl, fun _ => ⟨s, rfl⟩⟩
  | _ => exact iff_of_false (not_accepts_of_eq_error rfl) Bool.false_ne_true

/-- An index is read from an integer that is not negative. Every integer of a value is within 64
bits, so the test's upper bound asks for nothing more. -/
theorem recognizedBy_index : index.RecognizedBy Value.isIndex := by
  rintro ⟨value, -⟩
  cases value with
  | num n =>
    cases n with
    | int i =>
      simp only [Accepts, index, scalar, Value.isIndex, Bool.and_eq_true, decide_eq_true_eq]
      by_cases hnonneg : 0 ≤ i.val
      · rw [if_pos hnonneg]
        exact ⟨fun _ => ⟨hnonneg, i.property.2⟩, fun _ => ⟨_, rfl⟩⟩
      · rw [if_neg hnonneg]
        refine iff_of_false ?_ fun h => hnonneg h.1
        rintro ⟨a, ha⟩
        exact error_ne_ok ha
    | real x => exact iff_of_false (not_accepts_of_eq_error rfl) Bool.false_ne_true
  | _ => exact iff_of_false (not_accepts_of_eq_error rfl) Bool.false_ne_true

/-- Lists are recognized by testing each item; an item of a document is a document. -/
theorem recognizedBy_list {item : Decoder α} {test : Value → Bool} (h : item.RecognizedBy test) :
    (list item).RecognizedBy (Value.isListOf test) := by
  rintro ⟨value, hkeys⟩
  cases value with
  | arr items =>
    rw [accepts_list_iff, Value.isListOf, List.all_eq_true]
    exact forall₂_congr fun v hv => h ⟨v, hkeys.item hv⟩
  | _ => exact iff_of_false (not_accepts_of_eq_error rfl) Bool.false_ne_true

/-- Tables are recognized by testing each value; repeated keys would do no harm here, and are
excluded for the records further in. -/
theorem recognizedBy_table {σ : Type} {item : Decoder α} {empty : σ}
    {insert : σ → String → α → σ} {test : Value → Bool} (h : item.RecognizedBy test) :
    (table item empty insert).RecognizedBy (Value.isTableOf test) := by
  rintro ⟨value, hkeys⟩
  cases value with
  | obj members =>
    rw [accepts_table_iff, Value.isTableOf, List.all_eq_true]
    exact forall₂_congr fun member hmember => h ⟨member.2, hkeys.member hmember⟩
  | _ => exact iff_of_false (not_accepts_of_eq_error rfl) Bool.false_ne_true

/-! ### Fields -/

section Fields

variable {name : String} {decoder : Decoder β} {set : β → α → α}

/-- A mandatory field must be found, and what is found must pass the test of its shape. -/
theorem admits_mandatory_iff {test : Value → Bool} (h : decoder.RecognizedBy test)
    (found : Option Document) :
    (Field.mandatory name decoder set).Admits (found.map Document.value) ↔
      (found.map Document.value).any test = true := by
  cases found with
  | none => exact ⟨nofun, nofun⟩
  | some document => exact accepts_map.trans (h document)

/-- A field with a default may be absent; if it is found, it must pass the test of its shape. -/
theorem admits_withDefault_iff {test : Value → Bool} (h : decoder.RecognizedBy test)
    (found : Option Document) :
    (Field.withDefault name decoder set).Admits (found.map Document.value) ↔
      (found.map Document.value).all test = true := by
  cases found with
  | none => exact ⟨fun _ => rfl, fun _ => rfl⟩
  | some document => exact accepts_map.trans (h document)

/-- A field that accepts everything is never in the way. -/
theorem admits_withDefault_of_forall {found : Option Value}
    (h : ∀ value, decoder.Accepts value) :
    (Field.withDefault name decoder set).Admits found := by
  cases found with
  | none => rfl
  | some value => exact accepts_map.2 (h value)

end Fields

/-- Something is read from every value by a reader of any value. -/
theorem accepts_lenient (read : Value → β) (value : Value) : (any.map read).Accepts value :=
  accepts_map.2 ⟨value, rfl⟩

/-- A record is recognized by what is found under the names of its fields, in an object, or in
an array that is not too long. -/
theorem recognizedBy_record {name : String} {fields : List (Field α)} {defaults : α}
    (hfields : Independent fields) (test : (String → Option Value) → Bool)
    (htest : ∀ find : String → Option Document,
      (∀ field ∈ fields, field.Admits ((find field.name).map Document.value)) ↔
        test (fun key => (find key).map Document.value) = true) :
    (record name fields defaults).RecognizedBy fun value =>
      (writtenMembers fields value).any fun members => test (Members.get? members) := by
  rintro ⟨value, hkeys⟩
  rw [accepts_record_iff hfields, Option.any_eq_true]
  refine exists_congr fun members => and_congr_right fun hmembers => ?_
  -- the parts of either form have distinct keys, and so has the record itself
  have hparts : (declaredKeys fields members).Nodup ∧
      ∀ member ∈ members, member.2.DistinctKeys := by
    cases value with
    | obj own =>
      obtain rfl := Option.some.inj hmembers
      exact ⟨hkeys.nodup.filter _, fun member hmember => hkeys.member hmember⟩
    | arr items =>
      obtain rfl := Option.some.inj (Option.ite_none_right_eq_some.1 hmembers).2
      refine ⟨(hfields.nodup.sublist (Members.keys_zip_sublist _ items)).filter _, ?_⟩
      exact fun member hmember => hkeys.item (List.of_mem_zip hmember).2
    | _ => cases hmembers
  rw [and_iff_right hparts.1]
  obtain ⟨find, hfind⟩ := Document.exists_eq_map fun key value hvalue =>
    hparts.2 (key, value) (Members.mem_of_get? hvalue)
  rw [hfind]
  exact htest find

/-- The fields of an array are found under their names, if there are not too many. -/
theorem any_writtenMembers_arr (fields : List (Field α)) (items : List Value)
    (test : Members → Bool) :
    (writtenMembers fields (.arr items)).any test =
      (items.length ≤ fields.length && test ((fields.map Field.name).zip items)) := by
  rw [writtenMembers]
  by_cases h : items.length ≤ fields.length
  · rw [if_pos h, decide_eq_true h]
    rfl
  · rw [if_neg h, decide_eq_false h]
    rfl

end Decoder

end Json

end FlowScript
