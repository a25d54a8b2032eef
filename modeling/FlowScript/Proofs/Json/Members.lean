import FlowScript.Json.Value
import Mathlib.Data.List.Nodup

/-!
# Members by key

What is found under a key among the members of an object. A key that stands twice is found
where it stands first. In a dictionary no key does (`Dictionary`), and what is found there does
not depend on the order of the members (`Dictionary.get?_eq_of_perm`).
-/

namespace FlowScript

namespace Json

namespace Members

theorem get?_cons_self (key : String) (value : Value) (rest : Members) :
    get? ((key, value) :: rest) key = some value := by
  rw [get?, if_pos rfl]

theorem get?_cons_of_ne {key other : String} (h : key ≠ other) (value : Value) (rest : Members) :
    get? ((key, value) :: rest) other = get? rest other := by
  rw [get?, if_neg h]

/-- Nothing is found under a key exactly if no member has it. -/
theorem get?_eq_none_iff {members : Members} {key : String} :
    get? members key = none ↔ key ∉ members.map Prod.fst := by
  induction members with
  | nil => simp [get?]
  | cons member rest ih =>
    obtain ⟨k, v⟩ := member
    by_cases h : k = key
    · simp [get?, h]
    · rw [get?_cons_of_ne h, ih]
      simp [Ne.symm h]

/-- Something is found under a key exactly if a member has it, be it the value of the first one
only. -/
theorem exists_get?_iff {members : Members} {key : String} :
    (∃ value, get? members key = some value) ↔ key ∈ members.map Prod.fst := by
  rw [← not_iff_not, ← get?_eq_none_iff]
  cases get? members key <;> simp

/-- What is found is a member. The other direction needs that no other member has the key. -/
theorem mem_of_get? {members : Members} {key : String} {value : Value}
    (h : get? members key = some value) : (key, value) ∈ members := by
  induction members with
  | nil => cases h
  | cons member rest ih =>
    obtain ⟨k, v⟩ := member
    by_cases hkey : k = key
    · subst hkey
      rw [get?_cons_self] at h
      rw [Option.some.inj h]
      exact List.mem_cons_self
    · rw [get?_cons_of_ne hkey] at h
      exact List.mem_cons_of_mem _ (ih h)

/-- What stands in front is found first. -/
theorem get?_append (front back : Members) (key : String) :
    get? (front ++ back) key = (get? front key).or (get? back key) := by
  induction front with
  | nil => rfl
  | cons member rest ih =>
    obtain ⟨k, v⟩ := member
    by_cases h : k = key
    · simp [get?, h]
    · rw [List.cons_append, get?_cons_of_ne h, get?_cons_of_ne h, ih]

/-- Members with other keys can be left out. -/
theorem get?_filter (keeps : String → Bool) {key : String} (h : keeps key = true)
    (members : Members) :
    get? (members.filter fun member => keeps member.1) key = get? members key := by
  induction members with
  | nil => rfl
  | cons member rest ih =>
    obtain ⟨k, v⟩ := member
    rw [List.filter_cons]
    by_cases hkey : k = key
    · subst hkey
      rw [if_pos h, get?_cons_self, get?_cons_self]
    · rw [get?_cons_of_ne hkey, ← ih]
      split
      · exact get?_cons_of_ne hkey _ _
      · rfl

/-- Items under names leave out the names behind the last item, and the others stay in their order.
So distinct names give distinct keys. -/
theorem keys_zip_sublist (names : List String) (items : List Value) :
    ((names.zip items).map Prod.fst).Sublist names := by
  induction names generalizing items with
  | nil => exact .slnil
  | cons name names ih =>
    cases items with
    | nil => exact List.nil_sublist _
    | cons item items => exact (ih items).cons_cons name

/-- The items of a list under some names are found by the places of the names. -/
theorem get?_zip {names : List String} (hnames : names.Nodup) {items : List Value} (i : Nat)
    (name : String) (hname : names[i]? = some name) :
    get? (names.zip items) name = items[i]? := by
  induction names generalizing items i with
  | nil => simp at hname
  | cons first names ih =>
    obtain ⟨hfirst, hnames⟩ := List.nodup_cons.1 hnames
    cases items with
    | nil => simp [get?]
    | cons item items =>
      rw [List.zip_cons_cons]
      cases i with
      | zero =>
        obtain rfl : first = name := by simpa using hname
        rw [get?_cons_self]
        rfl
      | succ i =>
        rw [List.getElem?_cons_succ] at hname
        have hne : first ≠ name := by
          rintro rfl
          exact hfirst (List.mem_of_getElem? hname)
        rw [get?_cons_of_ne hne, ih hnames i hname]
        rfl

end Members

/-! ### Dictionaries -/

/-- Members of which no two have one key. An object that is put together by `Members.insert` has
such members, since a key that is there is not added again. -/
structure Dictionary where
  /-- the members, in order -/
  members : Members
  /-- no two of them have one key -/
  nodup : (members.map Prod.fst).Nodup

namespace Dictionary

/-- The dictionary with its members in another order. -/
def reordered (dictionary : Dictionary) {others : Members} (h : dictionary.members.Perm others) :
    Dictionary :=
  ⟨others, (h.map Prod.fst).nodup_iff.1 dictionary.nodup⟩

/-- In a dictionary, what is found under a key is the one member that has it. -/
theorem get?_eq_some_iff (dictionary : Dictionary) {key : String} {value : Value} :
    Members.get? dictionary.members key = some value ↔ (key, value) ∈ dictionary.members := by
  refine ⟨Members.mem_of_get?, fun h => ?_⟩
  obtain ⟨found, hfound⟩ := Members.exists_get?_iff.2 (List.mem_map_of_mem h)
  have heq := List.inj_on_of_nodup_map dictionary.nodup (Members.mem_of_get? hfound) h rfl
  rw [hfound, (Prod.mk.inj heq).2]

/-- What is found does not depend on the order: it is found exactly if it is a member. -/
theorem get?_eq_of_perm (dictionary : Dictionary) {others : Members}
    (h : dictionary.members.Perm others) (key : String) :
    Members.get? dictionary.members key = Members.get? others key := by
  ext value
  rw [dictionary.get?_eq_some_iff, h.mem_iff]
  exact (dictionary.reordered h).get?_eq_some_iff.symm

end Dictionary

end Json

end FlowScript
