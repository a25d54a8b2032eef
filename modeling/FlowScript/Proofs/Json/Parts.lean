import FlowScript.Proofs.Json.Text.Numbers

/-!
# The parts of a value

A value is made of values: itself, its items, the values of its members, and so on down.
Properties of a whole document are said of its parts:

* `Value.depth` is how deep the brackets of a value nest;
* `Value.DistinctKeys` says that no object in it has a key twice, and a `Document` is a value
  with the proof of that;
* `Value.Plain` adds that its numbers read back, which is all that its text takes for
  granted.

Each is inherited by items and members, and a statement about all values is proved from
scalars up (`Value.fromParts`).
-/

namespace FlowScript

namespace Json

namespace Value

/-- Neither an array nor an object. -/
def IsScalar : Value → Prop
  | .arr _ => False
  | .obj _ => False
  | _ => True

/-! ### Depth -/

mutual

/-- How many brackets deep a value nests. -/
def depth : Value → Nat
  | .arr items => itemsDepth items + 1
  | .obj members => membersDepth members + 1
  | _ => 0

/-- The greatest depth of a list of values. -/
def itemsDepth : List Value → Nat
  | [] => 0
  | v :: rest => max v.depth (itemsDepth rest)

/-- The greatest depth of the values of a list of members. -/
def membersDepth : List (String × Value) → Nat
  | [] => 0
  | (_, v) :: rest => max v.depth (membersDepth rest)

end

theorem depth_le_itemsDepth {items : List Value} {v : Value} (h : v ∈ items) :
    v.depth ≤ itemsDepth items := by
  induction items with
  | nil => cases h
  | cons w items ih =>
    rw [itemsDepth]
    rcases List.mem_cons.1 h with rfl | h
    · exact Nat.le_max_left _ _
    · exact Nat.le_trans (ih h) (Nat.le_max_right _ _)

theorem depth_le_membersDepth {members : List (String × Value)} {member : String × Value}
    (h : member ∈ members) : member.2.depth ≤ membersDepth members := by
  induction members with
  | nil => cases h
  | cons other members ih =>
    rw [membersDepth]
    rcases List.mem_cons.1 h with rfl | h
    · exact Nat.le_max_left _ _
    · exact Nat.le_trans (ih h) (Nat.le_max_right _ _)

/-- An item lies at least one bracket less deep than its array. Induction over values goes down
along this. -/
theorem depth_lt_of_item {items : List Value} {v : Value} (h : v ∈ items) :
    v.depth < (Value.arr items).depth := by
  rw [depth.eq_def (.arr items)]
  exact Nat.lt_succ_of_le (depth_le_itemsDepth h)

/-- The value of a member lies at least one bracket less deep than its object. -/
theorem depth_lt_of_member {members : List (String × Value)} {member : String × Value}
    (h : member ∈ members) : member.2.depth < (Value.obj members).depth := by
  rw [depth.eq_def (.obj members)]
  exact Nat.lt_succ_of_le (depth_le_membersDepth h)

/-- What a bracket holds is within one depth less. -/
theorem depth_le_of_item {items : List Value} {depth : Nat}
    (hdepth : (Value.arr items).depth ≤ depth + 1) {v : Value} (h : v ∈ items) : v.depth ≤ depth :=
  Nat.le_of_lt_succ (Nat.lt_of_lt_of_le (depth_lt_of_item h) hdepth)

theorem depth_le_of_member {members : List (String × Value)} {depth : Nat}
    (hdepth : (Value.obj members).depth ≤ depth + 1) {member : String × Value}
    (h : member ∈ members) : member.2.depth ≤ depth :=
  Nat.le_of_lt_succ (Nat.lt_of_lt_of_le (depth_lt_of_member h) hdepth)

/-- **Induction over the parts.** What holds of scalars, and of arrays and objects if it
holds of what they hold, holds of all values. -/
theorem fromParts {motive : Value → Prop} (scalar : ∀ v, v.IsScalar → motive v)
    (arr : ∀ items, (∀ v ∈ items, motive v) → motive (.arr items))
    (obj : ∀ members : List (String × Value), (∀ member ∈ members, motive member.2) →
      motive (.obj members)) (v : Value) : motive v := by
  have hdepth : ∀ depth v, Value.depth v ≤ depth → motive v := by
    intro depth
    induction depth using Nat.strongRecOn with
    | ind depth ih =>
      intro v hv
      cases v with
      | arr items =>
        refine arr items fun item hitem => ?_
        exact ih item.depth (Nat.lt_of_lt_of_le (depth_lt_of_item hitem) hv) item (Nat.le_refl _)
      | obj members =>
        refine obj members fun member hmember => ?_
        exact ih member.2.depth (Nat.lt_of_lt_of_le (depth_lt_of_member hmember) hv) member.2
          (Nat.le_refl _)
      | _ => exact scalar _ trivial
  exact hdepth v.depth v (Nat.le_refl _)

/-! ### Parts -/

mutual

/-- A value and all that it is made of. -/
def parts : Value → List Value
  | .arr items => .arr items :: itemsParts items
  | .obj members => .obj members :: membersParts members
  | v => [v]

/-- The parts of a list of values. -/
def itemsParts : List Value → List Value
  | [] => []
  | v :: rest => v.parts ++ itemsParts rest

/-- The parts of the values of a list of members. -/
def membersParts : List (String × Value) → List Value
  | [] => []
  | (_, v) :: rest => v.parts ++ membersParts rest

end

theorem mem_parts_self (v : Value) : v ∈ v.parts := by
  cases v <;> exact List.mem_cons_self

/-- A scalar has no parts but itself. -/
theorem parts_eq_of_isScalar {v : Value} (h : v.IsScalar) : v.parts = [v] := by
  cases v with
  | arr items => exact h.elim
  | obj members => exact h.elim
  | _ => rfl

/-- The parts of an item are parts of its array. The list of parts is put together item by item, and
the induction is on the items. -/
theorem mem_parts_of_item {items : List Value} {v part : Value} (h : v ∈ items)
    (hpart : part ∈ v.parts) : part ∈ (Value.arr items).parts := by
  refine List.mem_cons_of_mem _ ?_
  induction items with
  | nil => cases h
  | cons w items ih =>
    rw [itemsParts, List.mem_append]
    rcases List.mem_cons.1 h with rfl | h
    · exact .inl hpart
    · exact .inr (ih h)

/-- The parts of a member's value are parts of its object. -/
theorem mem_parts_of_member {members : List (String × Value)} {member : String × Value}
    {part : Value} (h : member ∈ members) (hpart : part ∈ member.2.parts) :
    part ∈ (Value.obj members).parts := by
  refine List.mem_cons_of_mem _ ?_
  induction members with
  | nil => cases h
  | cons other members ih =>
    rw [membersParts, List.mem_append]
    rcases List.mem_cons.1 h with rfl | h
    · exact .inl hpart
    · exact .inr (ih h)

/-! ### Documents that are read as they are written -/

/-- No object in the value has a key twice. Objects that are put together member by member
are of this kind, since `Members.insert` replaces the value of a key that is there. -/
def DistinctKeys (v : Value) : Prop :=
  ∀ members, .obj members ∈ v.parts → (members.map Prod.fst).Nodup

/-- The keys of an object are distinct; other values have none. -/
def hasDistinctKeys : Value → Bool
  | .obj members => decide (members.map Prod.fst).Nodup
  | _ => true

/-- Distinct keys are decided part by part, since a value has finitely many parts. This makes the
property one that can be computed. -/
theorem distinctKeys_iff {v : Value} : v.DistinctKeys ↔ v.parts.all hasDistinctKeys = true := by
  rw [List.all_eq_true]
  constructor
  · intro h part hpart
    cases part with
    | obj members => exact decide_eq_true (h members hpart)
    | _ => rfl
  · exact fun h members hpart => of_decide_eq_true (h _ hpart)

instance (v : Value) : Decidable v.DistinctKeys := decidable_of_iff _ distinctKeys_iff.symm

/-- An item has no object that its array does not have. -/
theorem DistinctKeys.item {items : List Value} (h : (Value.arr items).DistinctKeys) {v : Value}
    (hv : v ∈ items) : v.DistinctKeys :=
  fun members hpart => h members (mem_parts_of_item hv hpart)

theorem DistinctKeys.member {members : List (String × Value)} (h : (Value.obj members).DistinctKeys)
    {member : String × Value} (hmember : member ∈ members) : member.2.DistinctKeys :=
  fun inner hpart => h inner (mem_parts_of_member hmember hpart)

/-- An object is a part of itself, so its own keys are distinct. -/
theorem DistinctKeys.nodup {members : List (String × Value)}
    (h : (Value.obj members).DistinctKeys) : (members.map Prod.fst).Nodup :=
  h members (mem_parts_self _)

end Value

/-- A value in which no object has a key twice. A record refuses a key that comes again, and looking
members up does not see it; so what is accepted is told of documents, and a document is made with
the proof that it is one. -/
structure Document where
  /-- the value -/
  value : Value
  /-- no object in it has a key twice -/
  distinct : value.DistinctKeys

/-- A lookup that finds only values with distinct keys is a lookup of documents. This is how the
members of a document are handed on: the proof that they are documents goes with them. -/
theorem Document.exists_eq_map {find : String → Option Value}
    (h : ∀ key value, find key = some value → value.DistinctKeys) :
    ∃ documents : String → Option Document,
      find = fun key => (documents key).map Document.value := by
  refine ⟨fun key => (find key).pmap Document.mk (h key), funext fun key => ?_⟩
  rw [Option.map_pmap, Option.pmap_eq_map, Option.map_id']

namespace Value

/-- No key occurs twice in an object, and the text of every number reads back. -/
structure Plain (v : Value) : Prop where
  /-- keys are not repeated -/
  keys : v.DistinctKeys
  /-- numbers read back -/
  numbers : ∀ n, .num n ∈ v.parts → n.ReadsBack

/-- Only the real numbers of a value can fail to read back. -/
theorem plain_of {v : Value} (hkeys : v.DistinctKeys)
    (hreals : ∀ x, .num (.real x) ∈ v.parts → (Number.real x).ReadsBack) : v.Plain := by
  refine ⟨hkeys, fun n hn => ?_⟩
  cases n with
  | int i => exact Number.readsBack_int i
  | real x => exact hreals x hn

/-- What is plain stays plain inside: the parts of an item are parts of the whole. -/
theorem Plain.item {items : List Value} (h : (Value.arr items).Plain) {v : Value}
    (hv : v ∈ items) : v.Plain :=
  ⟨h.keys.item hv, fun n hpart => h.numbers n (mem_parts_of_item hv hpart)⟩

theorem Plain.member {members : List (String × Value)} (h : (Value.obj members).Plain)
    {member : String × Value} (hmember : member ∈ members) : member.2.Plain :=
  ⟨h.keys.member hmember, fun n hpart => h.numbers n (mem_parts_of_member hmember hpart)⟩

theorem Plain.nodup {members : List (String × Value)} (h : (Value.obj members).Plain) :
    (members.map Prod.fst).Nodup :=
  h.keys.nodup

/-- A number is a part of itself, so its own text reads back. -/
theorem Plain.readsBack {n : Number} (h : (Value.num n).Plain) : n.ReadsBack :=
  h.numbers n (mem_parts_self _)

end Value

end Json

end FlowScript
